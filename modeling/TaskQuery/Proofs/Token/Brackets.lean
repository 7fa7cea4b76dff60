import TaskQuery.Proofs.Token.Units

/-!
# Scanning properties

A property is written in brackets, its key and its value each in double quotes or not.

* `IsSpanned`, `IsUncut`: a text in which no bracket is closed, and one in which no colon separates,
  whatever stands behind it.  Plain texts and texts in quotes are of this kind, and so is what is put
  together from them.
* `scans_bracket`: such a text in brackets is one token (`bracketPiece`).
* `split_keyValue`: the key and the value are found again.
* `IsPart`: a key or value that is read back in quotes and without them; `scans_property` is about
  properties that are made of such parts.
-/

namespace TaskQuery

open Text

namespace Lexer

variable {position : Nat}

/-- A key or value of a property that is read back: no quote, backslash, bracket or colon occurs in
it, it is not empty, and there is nothing to trim off. -/
structure IsPart (s : List Char) : Prop where
  /-- The part is not empty. -/
  ne_nil : s ≠ []
  /-- There are no blanks at its ends. -/
  trim_eq : trim s = s
  /-- No character has a meaning inside brackets. -/
  plain : ∀ c ∈ s, c ∉ ['"', '\\', '[', ']', ':']

/-- A key or value as it is written. -/
def partText (quoted : Bool) (s : List Char) : List Char :=
  if quoted then '"' :: (s ++ ['"']) else s

/-- What is written between the brackets of a property. -/
def innerText (quoteKey quoteValue : Bool) (key : List Char) : (value : Option (List Char)) → List Char
  | none => partText quoteKey key
  | some value => partText quoteKey key ++ ':' :: partText quoteValue value

/-- A key, and a value behind a colon when there is one. -/
def propertyText (key : List Char) : (value : Option (List Char)) → List Char
  | none => key
  | some value => key ++ ':' :: value

/-! ## Inside the brackets -/

/-- A character that is nothing but itself, inside quotes or outside of them, where `stop` is what
ends a text. -/
def IsInert (stop : Char) (quoted : Bool) (c : Char) : Prop :=
  c ≠ '"' ∧ c ≠ if quoted then '\\' else stop

/-- An inert character goes to what is inside the brackets. -/
theorem bracketSpan?_inert {c : Char} {quoted : Bool} (hc : IsInert ']' quoted c)
    (cs : List Char) : bracketSpan? quoted (c :: cs) =
      (bracketSpan? quoted cs).map fun (inner, rest) => (c :: inner, rest) := by
  obtain ⟨hquote, hstop⟩ := hc
  rw [bracketSpan?]
  · cases quoted <;> simp_all
  · rintro rfl rfl
    simp at hstop
  · rintro d ds rfl rfl
    simp at hstop

/-- Inert characters go to what is inside the brackets. -/
theorem bracketSpan?_append_inert {s : List Char} {quoted : Bool}
    (hs : ∀ c ∈ s, IsInert ']' quoted c) (cs : List Char) : bracketSpan? quoted (s ++ cs) =
      (bracketSpan? quoted cs).map fun (inner, rest) => (s ++ inner, rest) := by
  induction s with
  | nil => cases h : bracketSpan? quoted cs <;> simp [h]
  | cons c s ih =>
    obtain ⟨hc, hs⟩ := List.forall_mem_cons.1 hs
    rw [List.cons_append, bracketSpan?_inert hc, ih hs, Option.map_map]
    rfl

/-- A quote opens or closes quotes inside the brackets. -/
theorem bracketSpan?_quote (quoted : Bool) (cs : List Char) : bracketSpan? quoted ('"' :: cs) =
    (bracketSpan? (!quoted) cs).map fun (inner, rest) => ('"' :: inner, rest) := by
  rw [bracketSpan?]
  · simp
  · simp
  · simp

/-- An inert character goes to what is in front of the colon. -/
theorem cutColon_inert {c : Char} {quoted : Bool} (hc : IsInert ':' quoted c) (cs : List Char) :
    Property.cutColon quoted (c :: cs) =
      (c :: (Property.cutColon quoted cs).1, (Property.cutColon quoted cs).2) := by
  obtain ⟨hquote, hstop⟩ := hc
  rw [Property.cutColon]
  · cases quoted <;> simp_all
  · rintro rfl rfl
    simp at hstop
  · rintro d ds rfl rfl
    simp at hstop

/-- Inert characters go to what is in front of the colon. -/
theorem cutColon_append_inert {s : List Char} {quoted : Bool}
    (hs : ∀ c ∈ s, IsInert ':' quoted c) (cs : List Char) : Property.cutColon quoted (s ++ cs) =
      (s ++ (Property.cutColon quoted cs).1, (Property.cutColon quoted cs).2) := by
  induction s with
  | nil => rfl
  | cons c s ih =>
    obtain ⟨hc, hs⟩ := List.forall_mem_cons.1 hs
    rw [List.cons_append, cutColon_inert hc, ih hs]
    rfl

/-- A quote opens or closes quotes in front of the colon. -/
theorem cutColon_quote (quoted : Bool) (cs : List Char) :
    Property.cutColon quoted ('"' :: cs) =
      ('"' :: (Property.cutColon (!quoted) cs).1, (Property.cutColon (!quoted) cs).2) := by
  rw [Property.cutColon]
  · simp
  · simp
  · simp

/-- No bracket is closed in the text, and behind it quotes are as they were. -/
def IsSpanned (w : List Char) : Prop :=
  ∀ cs, bracketSpan? false (w ++ cs) =
    (bracketSpan? false cs).map fun (inner, rest) => (w ++ inner, rest)

/-- No colon separates in the text, and behind it quotes are as they were. -/
def IsUncut (w : List Char) : Prop :=
  ∀ cs, Property.cutColon false (w ++ cs) =
    (w ++ (Property.cutColon false cs).1, (Property.cutColon false cs).2)

/-- No bracket is closed in two such texts. -/
theorem IsSpanned.append {w v : List Char} (hw : IsSpanned w) (hv : IsSpanned v) :
    IsSpanned (w ++ v) := by
  intro cs
  rw [List.append_assoc, hw, hv, Option.map_map]
  congr 1
  funext p
  simp

/-- No bracket is closed in inert characters. -/
theorem isSpanned_bare {w : List Char} (h : ∀ c ∈ w, IsInert ']' false c) : IsSpanned w :=
  bracketSpan?_append_inert h

/-- No colon separates in inert characters. -/
theorem isUncut_bare {w : List Char} (h : ∀ c ∈ w, IsInert ':' false c) : IsUncut w :=
  cutColon_append_inert h

/-- No bracket is closed inside quotes. -/
theorem isSpanned_quotes {w : List Char} (h : ∀ c ∈ w, IsInert ']' true c) :
    IsSpanned ('"' :: (w ++ ['"'])) := by
  intro cs
  rw [List.cons_append, List.append_assoc, List.singleton_append, bracketSpan?_quote,
    Bool.not_false, bracketSpan?_append_inert h, bracketSpan?_quote]
  simp only [Option.map_map, Bool.not_true]
  congr 1
  funext p
  simp

/-- No colon separates inside quotes. -/
theorem isUncut_quotes {w : List Char} (h : ∀ c ∈ w, IsInert ':' true c) :
    IsUncut ('"' :: (w ++ ['"'])) := by
  intro cs
  rw [List.cons_append, List.append_assoc, List.singleton_append, cutColon_quote, Bool.not_false,
    cutColon_append_inert h, cutColon_quote]
  simp

/-- Without a colon there is only a key. -/
theorem split_key {key : List Char} (hkey : IsUncut key) : Property.split key = (trim key, none) := by
  have hcut := hkey []
  rw [List.append_nil] at hcut
  rw [Property.split, hcut]
  simp [Property.cutColon]

/-- The first colon outside quotes separates the key from the value. -/
theorem split_keyValue {key : List Char} (hkey : IsUncut key) (value : List Char) :
    Property.split (key ++ ':' :: value) = (trim key, some (trim value)) := by
  have hcolon : Property.cutColon false (':' :: value) = ([], some value) := by
    rw [Property.cutColon]
    · rfl
    · simp
    · simp
  rw [Property.split, hkey, hcolon]
  simp

/-! ## Quotes around a text -/

/-- There is nothing to trim around quotes. -/
theorem trim_quotes (s : List Char) : trim ('"' :: (s ++ ['"'])) = '"' :: (s ++ ['"']) := by
  have hquote : isBlank '"' = false := by decide
  simp [trim, strip, hquote]

/-- Quotes around a text without backslashes are taken off. -/
theorem unquote_quotes {s : List Char} (h : '\\' ∉ s) :
    Property.unquote ('"' :: (s ++ ['"'])) = s := by
  rw [Property.unquote, enclosed?_quotes]
  exact unescapeQuotes_of_not_mem h

/-- A text in quotes is quoted. -/
theorem isQuoted_quotes (s : List Char) : Property.isQuoted ('"' :: (s ++ ['"'])) = true := by
  rw [Property.isQuoted, trim_quotes, enclosed?_quotes]
  rfl

/-! ## Properties -/

/-- The piece of a property with the given contents. -/
def bracketPiece (inner : List Char) : Piece :=
  ⟨.property, propertyValue (Property.unquote (Property.split inner).1) (Property.split inner).2,
    '[' :: (inner ++ [']'])⟩

/-- Contents in which no bracket is closed, and which hold a key, make up a property. -/
theorem scans_bracket {inner : List Char} (h : IsSpanned inner)
    (hkey : Property.unquote (Property.split inner).1 ≠ []) :
    Scans position ('[' :: (inner ++ [']'])) [(bracketPiece inner).toToken position] := by
  have hproperty : ∀ rest, property? (inner ++ ']' :: rest) = some (bracketPiece inner, rest) := by
    intro rest
    have hclose : bracketSpan? false (']' :: rest) = some ([], rest) := by
      rw [bracketSpan?]
      · rfl
      · simp
      · simp
    have hempty : (Property.unquote (Property.split inner).1).isEmpty = false := by simp [hkey]
    simp only [property?, h (']' :: rest), hclose, Option.map_some, List.append_nil,
      Option.bind_eq_bind, Option.bind_some, hempty, bracketPiece]
    rfl
  have hchunk : ∀ rest, Ends rest →
      chunk '[' (inner ++ [']'] ++ rest) = ([bracketPiece inner], rest) := by
    intro rest _
    rw [List.append_assoc, List.singleton_append]
    unfold chunk
    simp only [hproperty]
  exact scans_of_chunk (by decide) hchunk

/-! ## Parts that are read back -/

/-- A part has no colon. -/
theorem IsPart.colon_not_mem {s : List Char} (hs : IsPart s) : ':' ∉ s :=
  fun h => hs.plain _ h (by decide)

/-- The characters of a part are inert. -/
theorem IsPart.isInert {s : List Char} (hs : IsPart s) {stop : Char} (hstop : stop ∈ [']', ':'])
    (quoted : Bool) : ∀ c ∈ s, IsInert stop quoted c := by
  intro c hc
  have hplain := hs.plain c hc
  refine ⟨fun h => hplain (h ▸ by simp), fun h => hplain (h ▸ ?_)⟩
  cases quoted with
  | true => simp
  | false =>
    simp only [List.mem_cons, List.not_mem_nil, or_false] at hstop
    rcases hstop with rfl | rfl <;> simp

/-- Brackets are not closed inside a part. -/
theorem IsPart.isSpanned {s : List Char} (hs : IsPart s) (quoted : Bool) :
    IsSpanned (partText quoted s) := by
  cases quoted with
  | false => exact isSpanned_bare (hs.isInert (by simp) false)
  | true => exact isSpanned_quotes (hs.isInert (by simp) true)

/-- A part holds no colon that separates key and value. -/
theorem IsPart.isUncut {s : List Char} (hs : IsPart s) (quoted : Bool) :
    IsUncut (partText quoted s) := by
  cases quoted with
  | false => exact isUncut_bare (hs.isInert (by simp) false)
  | true => exact isUncut_quotes (hs.isInert (by simp) true)

/-- The contents of the brackets end at the closing one. -/
theorem isSpanned_innerText {key : List Char} {value : Option (List Char)} (hkey : IsPart key)
    (hvalue : ∀ v ∈ value, IsPart v) (quoteKey quoteValue : Bool) :
    IsSpanned (innerText quoteKey quoteValue key value) := by
  cases value with
  | none => exact hkey.isSpanned quoteKey
  | some v =>
    have hcolon : IsSpanned [':'] := isSpanned_bare (by simp [IsInert])
    exact (hkey.isSpanned quoteKey).append (hcolon.append ((hvalue v rfl).isSpanned quoteValue))

/-- There is nothing to trim off a part, quoted or not. -/
theorem trim_partText {s : List Char} (hs : IsPart s) (quoted : Bool) :
    trim (partText quoted s) = partText quoted s := by
  cases quoted with
  | false => exact hs.trim_eq
  | true => exact trim_quotes s

/-- The key and the value are found again between the brackets. -/
theorem split_innerText {key : List Char} {value : Option (List Char)} (hkey : IsPart key)
    (hvalue : ∀ v ∈ value, IsPart v) (quoteKey quoteValue : Bool) :
    Property.split (innerText quoteKey quoteValue key value) =
      (partText quoteKey key, value.map (partText quoteValue)) := by
  cases value with
  | none => rw [innerText, split_key (hkey.isUncut quoteKey), trim_partText hkey, Option.map_none]
  | some v =>
    rw [innerText, split_keyValue (hkey.isUncut quoteKey), trim_partText hkey,
      trim_partText (hvalue v rfl), Option.map_some]

/-- A part is not in quotes itself. -/
theorem enclosed?_part {s : List Char} (hs : IsPart s) : enclosed? s = none := by
  cases s with
  | nil => exact absurd rfl hs.ne_nil
  | cons c s =>
    refine enclosed?_of_head_ne ?_
    rintro rfl
    exact hs.plain '"' List.mem_cons_self List.mem_cons_self

/-- A part is read back, in quotes or not. -/
theorem unquote_partText {s : List Char} (hs : IsPart s) (quoted : Bool) :
    Property.unquote (partText quoted s) = s := by
  cases quoted with
  | true => exact unquote_quotes fun h => hs.plain _ h (by decide)
  | false =>
    rw [partText, if_neg (by decide), Property.unquote, enclosed?_part hs]

/-- A written part is quoted if it was to be. -/
theorem isQuoted_partText {s : List Char} (hs : IsPart s) (quoted : Bool) :
    Property.isQuoted (partText quoted s) = quoted := by
  cases quoted with
  | true => exact isQuoted_quotes s
  | false =>
    rw [partText, if_neg (by decide), Property.isQuoted, hs.trim_eq, enclosed?_part hs]
    rfl

/-- The key and the value stand in the text of the property as they are. -/
theorem propertyValue_partText {key : List Char} {value : Option (List Char)} (hkey : IsPart key)
    (hvalue : ∀ v ∈ value, IsPart v) (quoteKey quoteValue : Bool) :
    propertyValue (Property.unquote (partText quoteKey key)) (value.map (partText quoteValue)) =
      propertyText key value := by
  rw [unquote_partText hkey]
  cases value with
  | none => rfl
  | some v => rw [Option.map_some, propertyValue, unquote_partText (hvalue v rfl), propertyText]

/-- The piece of a property. -/
def propertyPiece (quoteKey quoteValue : Bool) (key : List Char) (value : Option (List Char)) : Piece :=
  ⟨.property, propertyText key value, '[' :: (innerText quoteKey quoteValue key value ++ [']'])⟩

/-- What is inside the brackets is one piece, a key with its value. -/
theorem bracketPiece_innerText {key : List Char} {value : Option (List Char)} (hkey : IsPart key)
    (hvalue : ∀ v ∈ value, IsPart v) (quoteKey quoteValue : Bool) :
    bracketPiece (innerText quoteKey quoteValue key value) =
      propertyPiece quoteKey quoteValue key value := by
  rw [bracketPiece, split_innerText hkey hvalue, propertyValue_partText hkey hvalue, propertyPiece]

/-- A property is scanned as one token. -/
theorem scans_property {key : List Char} {value : Option (List Char)} (hkey : IsPart key)
    (hvalue : ∀ v ∈ value, IsPart v) (quoteKey quoteValue : Bool) :
    Scans position ('[' :: (innerText quoteKey quoteValue key value ++ [']']))
      [(propertyPiece quoteKey quoteValue key value).toToken position] := by
  rw [← bracketPiece_innerText hkey hvalue]
  refine scans_bracket (isSpanned_innerText hkey hvalue quoteKey quoteValue) ?_
  rw [split_innerText hkey hvalue, unquote_partText hkey]
  exact hkey.ne_nil

end Lexer

end TaskQuery
