import TaskQuery.Text.Blank
import TaskQuery.Text.Casing
import TaskQuery.Text.Word
import TaskQuery.Token.Basic

/-!
# Cutting a query into tokens

The lexer never fails: every character of a query ends up in a token or is blank.  It reads one
*chunk* at a time, the pieces that belong together without a blank between them: a word, a
quoted text, a property, a sign, or a field name with the value and the range end glued to it.
The pieces of a chunk and the rest of the text make up the text again (`chunk_append`).

Between its brackets a property holds a key and, after the first colon outside double quotes, a
value.  Inside double quotes a backslash takes the next character with it.
-/

namespace TaskQuery

namespace Property

/-- The text before and after the first colon outside double quotes. -/
def cutColon : (quoted : Bool) → List Char → List Char × Option (List Char)
  | _, [] => ([], none)
  | true, ['\\'] => (['\\'], none)
  | true, '\\' :: c :: cs =>
    let (key, value) := cutColon true cs
    ('\\' :: c :: key, value)
  | quoted, c :: cs =>
    if c = ':' && !quoted then ([], some cs)
    else
      let (key, value) := cutColon (if c = '"' then !quoted else quoted) cs
      (c :: key, value)

/-- The key and the value, quotes kept and blanks at their ends dropped. -/
def split (inner : List Char) : List Char × Option (List Char) :=
  let (key, value) := cutColon false inner
  (Text.trim key, value.map Text.trim)

/-- Whether a text is in double quotes, blanks around them apart. -/
def isQuoted (s : List Char) : Bool := (Text.enclosed? (Text.trim s)).isSome

/-- The text inside double quotes with its escaped quotes undone, or the text as it stands. -/
def unquote (s : List Char) : List Char :=
  match Text.enclosed? s with
  | some inner => Text.unescapeQuotes inner
  | none => s

end Property

/-- A token before its place in the query is known. -/
structure Piece where
  /-- What the token is. -/
  kind : Token.Kind
  /-- What its text stands for. -/
  value : List Char
  /-- Its text. -/
  lexeme : List Char

namespace Piece

/-- The token of a piece at a position. -/
def toToken (p : Piece) (position : Nat) : Token :=
  ⟨p.kind, String.ofList p.value, String.ofList p.lexeme, position⟩

/-- A piece that stands for its own text. -/
def plain (kind : Token.Kind) (lexeme : List Char) : Piece := ⟨kind, lexeme, lexeme⟩

/-- The text of pieces that stand next to each other. -/
def text (pieces : List Piece) : List Char := pieces.flatMap Piece.lexeme

/-- The tokens of pieces that stand next to each other from a position on. -/
def place : (position : Nat) → List Piece → List Token
  | _, [] => []
  | position, p :: ps => p.toToken position :: place (position + p.lexeme.length) ps

end Piece

namespace Lexer

/-- A character of a bare word or value. -/
def isBare (c : Char) : Bool := !Text.isBlank c && c ≠ '(' && c ≠ ')' && c ≠ '"'

/-- The part of a quoted text after its opening quote, up to and with its closing quote, and the
rest; without a closing quote all is quoted.  A backslash takes the next character with it. -/
def quotedSpan : List Char → List Char × List Char
  | [] => ([], [])
  | '\\' :: c :: cs =>
    let (inside, rest) := quotedSpan cs
    ('\\' :: c :: inside, rest)
  | '"' :: cs => (['"'], cs)
  | c :: cs =>
    let (inside, rest) := quotedSpan cs
    (c :: inside, rest)

/-- What a quoted text stands for, given the part after its opening quote. -/
def quotedValue (inside : List Char) : List Char :=
  Text.unescapeQuotes (if inside.getLast? = some '"' then inside.dropLast else inside)

/-- The quoted text at the front, and the rest, given what follows its opening quote. -/
def quoted (kind : Token.Kind) (cs : List Char) : Piece × List Char :=
  let (inside, rest) := quotedSpan cs
  (⟨kind, quotedValue inside, '"' :: inside⟩, rest)

/-- The contents of a bracket, after the opening one, and the rest after the closing one; none
when it is never closed.  Inside double quotes brackets do not count and a backslash takes the
next character with it. -/
def bracketSpan? : (quoted : Bool) → List Char → Option (List Char × List Char)
  | _, [] => none
  | true, ['\\'] => none
  | true, '\\' :: c :: cs =>
    (bracketSpan? true cs).map fun (inner, rest) => ('\\' :: c :: inner, rest)
  | quoted, c :: cs =>
    if c = ']' && !quoted then some ([], cs)
    else
      (bracketSpan? (if c = '"' then !quoted else quoted) cs).map fun (inner, rest) =>
        (c :: inner, rest)

/-- The value of a property: its key, and its value after a colon if it has one. -/
def propertyValue (key : List Char) : (value : Option (List Char)) → List Char
  | none => key
  | some v => key ++ ':' :: Property.unquote v

/-- The property at the front, after its opening bracket; none without a closing bracket or
without a key. -/
def property? (cs : List Char) : Option (Piece × List Char) := do
  let (inner, rest) ← bracketSpan? false cs
  let (key, value) := Property.split inner
  let key := Property.unquote key
  if key.isEmpty then none
  else some (⟨.property, propertyValue key value, '[' :: inner ++ [']']⟩, rest)

/-- Whether a dash in front of `next` negates: it does unless nothing, a blank, a closing
parenthesis or another dash follows. -/
def dashNegates : (next : List Char) → Bool
  | [] => false
  | c :: _ => !Text.isBlank c && c ≠ ')' && c ≠ '-'

/-- The name of a field and the text after its colon. -/
def fieldName? (s : List Char) : Option (List Char × List Char) :=
  let name := s.takeWhile Text.isAsciiLetter
  match name, s.dropWhile Text.isAsciiLetter with
  | _ :: _, ':' :: rest => some (name, rest)
  | _, _ => none

/-- The end of a range glued to its operator. -/
def rangeEnd : List Char → List Piece × List Char
  | [] => ([], [])
  | '"' :: cs =>
    let (p, rest) := quoted .phrase cs
    ([p], rest)
  | c :: cs =>
    if isBare c then
      ([Piece.plain .word ((c :: cs).takeWhile isBare)], (c :: cs).dropWhile isBare)
    else ([], c :: cs)

/-- A range operator right after a value, with the end glued to it. -/
def rangeTail : List Char → List Piece × List Char
  | '.' :: '.' :: cs =>
    let (pieces, rest) := rangeEnd cs
    (Piece.plain .range ['.', '.'] :: pieces, rest)
  | cs => ([], cs)

/-- The part of a bare run before its first `..`, unless it begins with one. -/
def bareValue (run : List Char) : List Char :=
  match Text.cut? ['.', '.'] run with
  | some (c :: before, _) => c :: before
  | _ => run

/-- The value glued to a field name, and a range after it. -/
def fieldValue : List Char → List Piece × List Char
  | [] => ([], [])
  | '"' :: cs =>
    let (p, rest) := quoted .quotedValue cs
    let (pieces, rest) := rangeTail rest
    (p :: pieces, rest)
  | c :: cs =>
    if isBare c then
      let value := bareValue ((c :: cs).takeWhile isBare)
      let (pieces, rest) := rangeTail ((c :: cs).drop value.length)
      (Piece.plain .value value :: pieces, rest)
    else ([], c :: cs)

/-- The keyword that a word is in any letter case, or a plain word. -/
def wordKind (w : List Char) : Token.Kind :=
  match String.ofList (Text.upper w) with
  | "AND" => .and
  | "OR" => .or
  | "NOT" => .not
  | _ => .word

/-- The word at the front. -/
def word (s : List Char) : Piece × List Char :=
  let w := s.takeWhile isBare
  let kind := wordKind w
  (⟨kind, if kind = .word then w else Text.lower w, w⟩, s.dropWhile isBare)

/-- A field with what is glued to it, or else a word. -/
def fieldOrWord (s : List Char) : List Piece × List Char :=
  match fieldName? s with
  | some (name, rest) =>
    let (pieces, rest) := fieldValue rest
    (⟨.field, name, name ++ [':']⟩ :: pieces, rest)
  | none =>
    let (p, rest) := word s
    ([p], rest)

/-- The pieces at the front of a text that starts with `c`, which is not blank, and the rest. -/
def chunk (c : Char) (cs : List Char) : List Piece × List Char :=
  match c with
  | '(' => ([Piece.plain .openParen ['(']], cs)
  | ')' => ([Piece.plain .closeParen [')']], cs)
  | '"' =>
    let (p, rest) := quoted .phrase cs
    ([p], rest)
  | '[' =>
    match property? cs with
    | some (p, rest) => ([p], rest)
    | none => fieldOrWord ('[' :: cs)
  | '-' =>
    if dashNegates cs then ([⟨.not, "not".toList, ['-']⟩], cs) else fieldOrWord ('-' :: cs)
  | c => fieldOrWord (c :: cs)

/-! ## Nothing is lost -/

/-- Quotes take the front of the text and leave the rest. -/
theorem quotedSpan_append (s : List Char) : (quotedSpan s).1 ++ (quotedSpan s).2 = s := by
  fun_induction quotedSpan s <;> simp_all

/-- A quoted piece takes the front of the text and leaves the rest. -/
theorem quoted_append (kind : Token.Kind) (cs : List Char) :
    (quoted kind cs).1.lexeme ++ (quoted kind cs).2 = '"' :: cs := by
  simp [quoted, quotedSpan_append]

/-- Brackets take the front of the text and leave the rest. -/
theorem bracketSpan?_append {q : Bool} {s inner rest : List Char}
    (h : bracketSpan? q s = some (inner, rest)) : inner ++ ']' :: rest = s := by
  fun_induction bracketSpan? q s generalizing inner rest with
  | case1 => simp at h
  | case2 => simp at h
  | case3 c cs ih =>
    simp only [Option.map_eq_some_iff, Prod.mk.injEq, Prod.exists] at h
    obtain ⟨i, r, hi, rfl, rfl⟩ := h
    simp [ih hi]
  | case4 => simp_all
  | case5 =>
    rename_i ih
    simp only [Option.map_eq_some_iff, Prod.mk.injEq, Prod.exists] at h
    obtain ⟨i, r, hi, rfl, rfl⟩ := h
    simp [ih hi]

/-- A property takes the bracketed text at the front. -/
theorem lexeme_of_property? {cs rest : List Char} {p : Piece}
    (h : property? cs = some (p, rest)) :
    ∃ inner, p.lexeme = '[' :: inner ++ [']'] ∧ inner ++ ']' :: rest = cs := by
  simp only [property?, Option.bind_eq_bind, Option.bind_eq_some_iff, Prod.exists] at h
  obtain ⟨inner, r, hs, h⟩ := h
  split at h
  · simp at h
  · simp only [Option.some.injEq, Prod.mk.injEq] at h
    obtain ⟨rfl, rfl⟩ := h
    exact ⟨inner, rfl, bracketSpan?_append hs⟩

/-- The name of a field takes the front of the text, with its colon, and leaves the rest. -/
theorem fieldName?_append {s name rest : List Char} (h : fieldName? s = some (name, rest)) :
    name ++ ':' :: rest = s := by
  simp only [fieldName?] at h
  split at h
  · next hd =>
    simp only [Option.some.injEq, Prod.mk.injEq] at h
    obtain ⟨rfl, rfl⟩ := h
    rw [← hd]
    exact List.takeWhile_append_dropWhile
  · simp at h

/-- The end of a range takes the front of the text and leaves the rest. -/
theorem rangeEnd_append (s : List Char) : Piece.text (rangeEnd s).1 ++ (rangeEnd s).2 = s := by
  unfold rangeEnd
  split
  · rfl
  · next cs => simp [Piece.text, quoted_append]
  · split
    · simp [Piece.text, Piece.plain, List.takeWhile_append_dropWhile]
    · simp [Piece.text]

/-- A range takes the front of the text and leaves the rest. -/
theorem rangeTail_append (s : List Char) : Piece.text (rangeTail s).1 ++ (rangeTail s).2 = s := by
  unfold rangeTail
  split
  · next cs =>
    have := rangeEnd_append cs
    simp_all [Piece.text, Piece.plain]
  · simp [Piece.text]

/-- A bare value is the front of its run. -/
theorem bareValue_prefix_run (run : List Char) : bareValue run <+: run := by
  unfold bareValue
  split
  · next c before after h =>
    rw [Text.eq_append_of_cut? h]
    simp
  · exact List.prefix_rfl

/-- The value of a field takes the front of the text and leaves the rest. -/
theorem fieldValue_append (s : List Char) : Piece.text (fieldValue s).1 ++ (fieldValue s).2 = s := by
  unfold fieldValue
  split
  · rfl
  · next cs =>
    have h1 := quoted_append .quotedValue cs
    have h2 := rangeTail_append (quoted .quotedValue cs).2
    simp only [Piece.text, List.flatMap_cons, List.append_assoc] at *
    rw [h2, h1]
  · next c cs _ =>
    split
    · have h1 : bareValue ((c :: cs).takeWhile isBare) <+: c :: cs :=
        (bareValue_prefix_run _).trans (List.takeWhile_prefix _)
      have h2 := rangeTail_append
        ((c :: cs).drop (bareValue ((c :: cs).takeWhile isBare)).length)
      simp only [Piece.text, List.flatMap_cons, List.append_assoc, Piece.plain] at *
      rw [h2]
      exact (List.prefix_iff_eq_append.1 h1).symm ▸ rfl
    · simp [Piece.text]

/-- A field or word takes the front of the text and leaves the rest. -/
theorem fieldOrWord_append (s : List Char) :
    Piece.text (fieldOrWord s).1 ++ (fieldOrWord s).2 = s := by
  unfold fieldOrWord
  split
  · next name rest h =>
    have h1 := fieldName?_append h
    have h2 := fieldValue_append rest
    simp only [Piece.text, List.flatMap_cons, List.append_assoc] at *
    rw [h2]
    simpa using h1
  · simp [Piece.text, word, List.takeWhile_append_dropWhile]

/-- The pieces of a chunk and the rest make up the text. -/
theorem chunk_append (c : Char) (cs : List Char) :
    Piece.text (chunk c cs).1 ++ (chunk c cs).2 = c :: cs := by
  unfold chunk
  split
  · rfl
  · rfl
  · simp [Piece.text, quoted_append]
  · split
    · next h =>
      obtain ⟨inner, h1, h2⟩ := lexeme_of_property? h
      simp [Piece.text, h1, ← h2]
    · exact fieldOrWord_append _
  · split
    · rfl
    · exact fieldOrWord_append _
  · exact fieldOrWord_append _

/-- A field or word takes a character. -/
theorem fieldOrWord_text_ne_nil {c : Char} (h : isBare c = true) (cs : List Char) :
    Piece.text (fieldOrWord (c :: cs)).1 ≠ [] := by
  unfold fieldOrWord
  split <;> simp [Piece.text, word, h]

/-- A chunk that does not start with a blank takes at least one character. -/
theorem chunk_text_ne_nil {c : Char} (h : Text.isBlank c = false) (cs : List Char) :
    Piece.text (chunk c cs).1 ≠ [] := by
  unfold chunk
  split
  · simp [Piece.text, Piece.plain]
  · simp [Piece.text, Piece.plain]
  · simp [Piece.text, quoted]
  · split
    · next hp =>
      obtain ⟨inner, h1, -⟩ := lexeme_of_property? hp
      simp [Piece.text, h1]
    · exact fieldOrWord_text_ne_nil (by decide) cs
  · split
    · simp [Piece.text]
    · exact fieldOrWord_text_ne_nil (by decide) cs
  · exact fieldOrWord_text_ne_nil (by simp_all [isBare]) cs

/-- A chunk takes a character, so that reading ends. -/
theorem chunk_rest_length {c : Char} (h : Text.isBlank c = false) (cs : List Char) :
    (chunk c cs).2.length < (c :: cs).length := by
  have happ := congrArg List.length (chunk_append c cs)
  have := List.length_pos_iff.2 (chunk_text_ne_nil h cs)
  simp only [List.length_append] at happ
  omega

/-- The tokens of a text that stands at a position of the query. -/
def tokensFrom (position : Nat) : List Char → List Token
  | [] => []
  | c :: cs =>
    if _h : Text.isBlank c then tokensFrom (position + 1) cs
    else
      Piece.place position (chunk c cs).1 ++
        tokensFrom (position + (Piece.text (chunk c cs).1).length) (chunk c cs).2
termination_by s => s.length
decreasing_by
  · exact Nat.lt_succ_self _
  · exact chunk_rest_length (Bool.eq_false_iff.2 _h) cs

end Lexer

/-- The tokens of a query, from left to right. -/
def Token.scan (query : String) : List Token := Lexer.tokensFrom 0 query.toList

end TaskQuery
