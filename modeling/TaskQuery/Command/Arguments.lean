import TaskQuery.Files.PathName

/-!
# Arguments of a command

An argument that starts with a dash names an option.  A long name may carry its value after an
equals sign; one-letter names may be written together, and the last of them may be followed by its
value.  A value that is not attached is the next argument.  Two dashes end the options.  The first
argument that is not understood refuses all of them.
-/

namespace TaskQuery.Command

/-- Why a command line is not followed. -/
inductive Refusal where
  /-- It is not understood. -/
  | misused
  /-- The option of the given name comes without its value. -/
  | noValue (name : String)
  /-- The option of the given name comes with a value, which it does not take. -/
  | unwantedValue (name : String)
  /-- The value of an option is a path that leads nowhere. -/
  | badPath (error : PathError)
  deriving DecidableEq, Repr

/-- A name of an option. -/
structure OptionName (α : Type) where
  /-- The name with its dashes. -/
  text : String
  /-- The option. -/
  option : α
  /-- Whether a value follows. -/
  takesValue : Bool := false

/-- Options in the order in which they are given, each with its value or an empty text. -/
abbrev Given (α : Type) := List (α × String)

/-- Arguments taken apart. -/
structure Arguments (α : Type) where
  /-- The options. -/
  options : Given α
  /-- The other arguments. -/
  operands : List String

namespace Arguments

variable {α : Type}

/-- Arguments with an option in front. -/
def withOptions (given : Given α) (a : Arguments α) : Arguments α :=
  { a with options := given ++ a.options }

/-- Arguments with an operand in front. -/
def withOperand (operand : String) (a : Arguments α) : Arguments α :=
  { a with operands := operand :: a.operands }

/-- An option of one letter. -/
def findLetter? (names : List (OptionName α)) (letter : Char) : Option (OptionName α) :=
  names.find? fun n => n.text.toList == ['-', letter]

/-- An option with a long name. -/
def findName? (names : List (OptionName α)) (text : List Char) : Option (OptionName α) :=
  names.find? fun n => n.text.toList == text && text.length > 2

/-- Options that one argument names; the last one may wait for its value. -/
abbrev Named (α : Type) := Given α × Option (OptionName α)

/-- Options of one letter written together. -/
def letters (names : List (OptionName α)) : List Char → Except Refusal (Named α)
  | [] => .ok ([], none)
  | c :: cs =>
    match findLetter? names c with
    | none => .error .misused
    | some n =>
      if n.takesValue then
        if cs.isEmpty then .ok ([], some n) else .ok ([(n.option, String.ofList cs)], none)
      else (letters names cs).map fun (given, waiting) => ((n.option, "") :: given, waiting)

/-- The options that one argument names. -/
def named (names : List (OptionName α)) (argument : List Char) : Except Refusal (Named α) :=
  let text := argument.takeWhile (· ≠ '=')
  let value := (argument.drop text.length).tail
  let attached := argument.contains '='
  match findName? names text with
  | some n =>
    if n.takesValue then
      if attached then .ok ([(n.option, String.ofList value)], none) else .ok ([], some n)
    else if attached then .error (.unwantedValue n.text) else .ok ([(n.option, "")], none)
  | none =>
    if argument.take 2 = ['-', '-'] then .error .misused else letters names argument.tail

/-- Take arguments apart.  Unless `mixed`, options end at the first operand. -/
def parse (names : List (OptionName α)) (mixed : Bool) :
    List String → Except Refusal (Arguments α)
  | [] => .ok ⟨[], []⟩
  | argument :: rest =>
    if argument = "--" then .ok ⟨[], rest⟩
    else if argument.toList.head? = some '-' && argument.length > 1 then
      match named names argument.toList, rest with
      | .error why, _ => .error why
      | .ok (given, none), rest => (parse names mixed rest).map (·.withOptions given)
      | .ok (_, some waiting), [] => .error (.noValue waiting.text)
      | .ok (given, some waiting), value :: rest =>
        (parse names mixed rest).map (·.withOptions (given ++ [(waiting.option, value)]))
    else if mixed then (parse names mixed rest).map (·.withOperand argument)
    else .ok ⟨[], argument :: rest⟩

/-- Whether an option is given. -/
def has [BEq α] (a : Arguments α) (option : α) : Bool := a.options.any (·.1 == option)

/-- The value that an option is given last. -/
def value? [BEq α] (a : Arguments α) (option : α) : Option String := a.options.reverse.lookup option

/-- Which of two options is given first, when one of them is. -/
def first? [BEq α] (a : Arguments α) (one other : α) : Option Bool :=
  (a.options.find? fun (o, _) => o == one || o == other).map fun (o, _) => o == one

/-- Why the value that an option is given last is refused; of several such options the one that is
given first decides. -/
def refusal? [BEq α] (a : Arguments α) (refuses : α → String → Option Refusal) : Option Refusal :=
  a.options.findSome? fun (o, _) => (a.value? o).bind (refuses o)

/-- Which of two options that exclude each other is given last. -/
def choice? [BEq α] (a : Arguments α) (yes no : α) : Option Bool :=
  (a.options.reverse.find? fun (o, _) => o == yes || o == no).map fun (o, _) => o == yes

end Arguments

end TaskQuery.Command
