import TaskQuery.Proofs.Text.Plain
import TaskQuery.Proofs.Text.Quoting
import TaskQuery.Token.Lexer

/-!
# Scanning a text unit by unit

A query text that is put together from units is cut into the tokens of the units, as long as
nothing is glued to a unit that does not belong to it.

* `Scans position w ts`: wherever the text `w` stands at the position and ends with its last unit,
  it has the tokens `ts`.
* `Scans.append`, `Scans.blank`, `Scans.parens`: how texts are put together.
* `scans_word`, `scans_quoted`, `scans_field`: words, texts in double quotes, and field names with
  what `fieldValue_of_ends` or `fieldValue_range` finds behind their colon.
-/

namespace TaskQuery

open Text

namespace Lexer

/-- Behind a unit stands nothing that a bare run would take up. -/
def Ends (rest : List Char) : Prop := ∀ c ∈ rest.head?, isBare c = false

/-- The text at the position has the tokens, whatever stands behind its end. -/
def Scans (position : Nat) (w : List Char) (ts : List Token) : Prop :=
  ∀ rest, Ends rest → tokensFrom position (w ++ rest) = ts ++ tokensFrom (position + w.length) rest

/-- A bare run ends with the text. -/
theorem ends_nil : Ends [] := fun _ h => by simp at h

/-- A bare run ends at a character that is not bare. -/
theorem ends_cons {c : Char} (h : isBare c = false) (cs : List Char) : Ends (c :: cs) := by
  intro d hd
  obtain rfl : c = d := by simpa using hd
  exact h

/-- A bare run ends in front of either text. -/
theorem Ends.append {w rest : List Char} (hw : Ends w) (hr : Ends rest) : Ends (w ++ rest) := by
  cases w with
  | nil => exact hr
  | cons c w => exact ends_cons (hw c rfl) _

variable {position : Nat} {w v rest : List Char} {ts us : List Token}

/-- A blank is passed over. -/
theorem tokensFrom_blank {c : Char} (h : isBlank c = true) (cs : List Char) :
    tokensFrom position (c :: cs) = tokensFrom (position + 1) cs := by
  rw [tokensFrom, dif_pos h]

/-- A chunk gives the tokens of its pieces. -/
theorem tokensFrom_chunk {c : Char} {cs : List Char} {ps : List Piece} (h : isBlank c = false)
    (hc : chunk c cs = (ps, rest)) : tokensFrom position (c :: cs) =
      Piece.place position ps ++ tokensFrom (position + (Piece.text ps).length) rest := by
  rw [tokensFrom, dif_neg (by simp [h]), hc]

/-! ## Texts made of units -/

/-- No text has no tokens. -/
theorem scans_nil : Scans position [] [] := fun _ _ => rfl

/-- A text behind another one is scanned behind it. -/
theorem Scans.append (hw : Scans position w ts) (hv : Scans (position + w.length) v us)
    (hends : Ends v) : Scans position (w ++ v) (ts ++ us) := by
  intro rest hr
  rw [List.append_assoc, hw _ (hends.append hr), hv rest hr, List.append_assoc,
    List.length_append, Nat.add_assoc]

/-- A blank in front moves the tokens. -/
theorem Scans.blank (h : Scans (position + 1) w ts) : Scans position (' ' :: w) ts := by
  intro rest hr
  rw [List.cons_append, tokensFrom_blank (by decide), h rest hr, List.length_cons,
    Nat.add_assoc, Nat.add_comm 1]

/-- The token of an opening parenthesis. -/
def openToken (position : Nat) : Token := (Piece.plain .openParen ['(']).toToken position

/-- The token of a closing parenthesis. -/
def closeToken (position : Nat) : Token := (Piece.plain .closeParen [')']).toToken position

/-- Parentheses around a text are tokens around its own. -/
theorem Scans.parens (h : Scans (position + 1) w ts) :
    Scans position ('(' :: (w ++ [')']))
      (openToken position :: (ts ++ [closeToken (position + 1 + w.length)])) := by
  intro rest hr
  have hclose : Ends (')' :: rest) := ends_cons (by decide) rest
  have hopen : chunk '(' (w ++ ')' :: rest) = ([Piece.plain .openParen ['(']], w ++ ')' :: rest) :=
    rfl
  have hshut : chunk ')' rest = ([Piece.plain .closeParen [')']], rest) := rfl
  rw [List.cons_append, List.append_assoc, List.singleton_append,
    tokensFrom_chunk (by decide) hopen]
  show openToken position :: tokensFrom (position + 1) (w ++ ')' :: rest) = _
  have hlength : position + ('(' :: (w ++ [')'])).length = position + 1 + w.length + 1 := by
    simp only [List.length_cons, List.length_append, List.length_nil]
    omega
  rw [h _ hclose, tokensFrom_chunk (by decide) hshut, hlength]
  simp only [List.cons_append, List.append_assoc, List.nil_append]
  rfl

/-- A chunk that ends where the unit ends gives the tokens of the unit. -/
theorem scans_of_chunk {c : Char} {ps : List Piece} (hb : isBlank c = false)
    (h : ∀ rest, Ends rest → chunk c (w ++ rest) = (ps, rest)) :
    Scans position (c :: w) (Piece.place position ps) := by
  have htext : Piece.text ps = c :: w := by
    have happ := chunk_append c (w ++ [])
    rw [h [] ends_nil] at happ
    simpa using happ
  intro rest hr
  rw [List.cons_append, tokensFrom_chunk hb (h rest hr), htext]

/-- What is scanned from the start is the scan of the text. -/
theorem Scans.scan_eq (h : Scans 0 w ts) : Token.scan (String.ofList w) = ts := by
  have h := h [] ends_nil
  rw [List.append_nil] at h
  rw [Token.scan, String.toList_ofList, h, tokensFrom, List.append_nil]

/-! ## Words -/

/-- The text holds characters of a bare run only. -/
def IsBareRun (w : List Char) : Prop := ∀ c ∈ w, isBare c = true

/-- A bare run is taken whole. -/
theorem takeWhile_isBare (hw : IsBareRun w) (hr : Ends rest) :
    (w ++ rest).takeWhile isBare = w := by
  rw [List.takeWhile_append_of_pos hw]
  cases rest with
  | nil => simp
  | cons c cs => simp [hr c rfl]

/-- Behind a bare run stands the rest. -/
theorem dropWhile_isBare (hw : IsBareRun w) (hr : Ends rest) :
    (w ++ rest).dropWhile isBare = rest := by
  rw [List.dropWhile_append_of_pos hw]
  cases rest with
  | nil => rfl
  | cons c cs => simp [hr c rfl]

/-- The codes of ASCII letters. -/
theorem toNat_of_isAsciiLetter {c : Char} (h : isAsciiLetter c = true) :
    97 ≤ c.toNat ∧ c.toNat ≤ 122 ∨ 65 ≤ c.toNat ∧ c.toNat ≤ 90 := by
  simp only [isAsciiLetter, Bool.or_eq_true, Bool.and_eq_true, decide_eq_true_eq, Char.le_def,
    UInt32.le_iff_toNat_le] at h
  exact h

/-- A letter may stand in a bare word. -/
theorem isBare_of_isAsciiLetter {c : Char} (h : isAsciiLetter c = true) : isBare c = true := by
  have hc := toNat_of_isAsciiLetter h
  have hblank : isBlank c = false := by
    simp only [isBlank, Bool.or_eq_false_iff, Bool.and_eq_false_iff, decide_eq_false_iff_not,
      beq_eq_false_iff_ne]
    omega
  have hne : ∀ d : Char, d.toNat < 65 → c ≠ d := by
    rintro d hd rfl
    omega
  simp only [isBare, hblank, ne_eq, hne '(' (by decide), hne ')' (by decide), hne '"' (by decide)]
  rfl

/-- A text without a colon does not start with a field name. -/
theorem fieldName?_eq_none (hw : ':' ∉ w) (hr : Ends rest) : fieldName? (w ++ rest) = none := by
  have hhead : ∀ cs, (w ++ rest).dropWhile isAsciiLetter ≠ ':' :: cs := by
    intro cs h
    induction w with
    | nil =>
      cases rest with
      | nil => simp at h
      | cons c rest =>
        have hc : isBare c = false := hr c rfl
        by_cases hletter : isAsciiLetter c = true
        · simp [isBare_of_isAsciiLetter hletter] at hc
        · rw [List.nil_append, List.dropWhile_cons_of_neg hletter, List.cons.injEq] at h
          rw [h.1] at hc
          exact absurd hc (by decide)
    | cons c w ih =>
      obtain ⟨hc, hw⟩ := not_or.1 (mt List.mem_cons.2 hw)
      by_cases hletter : isAsciiLetter c = true
      · rw [List.cons_append, List.dropWhile_cons_of_pos hletter] at h
        exact ih hw h
      · rw [List.cons_append, List.dropWhile_cons_of_neg hletter, List.cons.injEq] at h
        exact hc h.1.symm
  unfold fieldName?
  simp only
  split
  · next h => exact absurd h (hhead _)
  · rfl

/-- A character that opens no unit of its own. -/
def opensWord (c : Char) : Prop := c ∉ ['(', ')', '"', '[', '-']

/-- What begins like a word is a field or word. -/
theorem chunk_eq_fieldOrWord {c : Char} (h : opensWord c) (cs : List Char) :
    chunk c cs = fieldOrWord (c :: cs) := by
  simp only [opensWord, List.mem_cons, List.not_mem_nil, or_false, not_or] at h
  unfold chunk
  split <;> simp_all

/-- The token of a word. -/
def wordToken (w : List Char) (position : Nat) : Token :=
  Piece.toToken ⟨wordKind w, if wordKind w = .word then w else lower w, w⟩ position

/-- A bare run without a colon is a word, keywords included. -/
theorem scans_word {c : Char} (hw : IsBareRun (c :: w)) (hc : opensWord c) (hcolon : ':' ∉ c :: w) :
    Scans position (c :: w) [wordToken (c :: w) position] := by
  have hbare : isBare c = true := hw c List.mem_cons_self
  have hb : isBlank c = false := by
    cases h : isBlank c
    · rfl
    · simp [isBare, h] at hbare
  have hchunk : ∀ rest, Ends rest → chunk c (w ++ rest) =
      ([⟨wordKind (c :: w), if wordKind (c :: w) = .word then c :: w else lower (c :: w), c :: w⟩],
        rest) := by
    intro rest hr
    rw [chunk_eq_fieldOrWord hc, ← List.cons_append, fieldOrWord, fieldName?_eq_none hcolon hr]
    simp only [word, takeWhile_isBare hw hr, dropWhile_isBare hw hr]
  exact scans_of_chunk hb hchunk

/-! ## Quoted texts -/

/-- Escaped quotes do not end the quotes around them. -/
theorem quotedSpan_escapeQuotes (hw : '\\' ∉ w) (rest : List Char) :
    quotedSpan (escapeQuotes w ++ '"' :: rest) = (escapeQuotes w ++ ['"'], rest) := by
  induction w with
  | nil => rw [escapeQuotes, List.nil_append, quotedSpan]; rfl
  | cons c w ih =>
    obtain ⟨hc, htail⟩ := not_or.1 (mt List.mem_cons.2 hw)
    by_cases hq : c = '"'
    · subst hq
      rw [escapeQuotes, List.cons_append, List.cons_append, quotedSpan, ih htail]
      rfl
    · rw [escapeQuotes_cons hq, List.cons_append, quotedSpan, ih htail]
      · rfl
      · intro d cs h
        exact absurd h.symm hc
      · exact hq

/-- A text in double quotes is read up to its closing quote, and as it was. -/
theorem quoted_inQuotes (kind : Token.Kind) (hw : '\\' ∉ w) (rest : List Char) :
    quoted kind (escapeQuotes w ++ '"' :: rest) = (⟨kind, w, inQuotes w⟩, rest) := by
  have hlast : (escapeQuotes w ++ ['"']).getLast? = some '"' := List.getLast?_concat
  rw [quoted, quotedSpan_escapeQuotes hw]
  simp only [quotedValue, hlast, if_true, List.dropLast_concat, unescapeQuotes_escapeQuotes hw]
  rfl

/-- A text in quotes is scanned as a phrase. -/
theorem scans_quoted (hw : '\\' ∉ w) : Scans position (inQuotes w)
    [Piece.toToken ⟨.phrase, w, inQuotes w⟩ position] := by
  have hchunk : ∀ rest, Ends rest → chunk '"' (escapeQuotes w ++ ['"'] ++ rest) =
      ([⟨.phrase, w, inQuotes w⟩], rest) := by
    intro rest _
    rw [List.append_assoc, List.singleton_append]
    exact congrArg (fun r : Piece × List Char => ([r.1], r.2)) (quoted_inQuotes .phrase hw rest)
  exact scans_of_chunk (by decide) hchunk

/-! ## Fields -/

/-- A value as it is written: in double quotes when exact. -/
def valueText (exact : Bool) (v : List Char) : List Char := if exact then inQuotes v else v

/-- A value that is read back: without backslashes when exact, else a bare run. -/
def IsValue (exact : Bool) (v : List Char) : Prop :=
  if exact then '\\' ∉ v else v ≠ [] ∧ IsBareRun v

/-- In quotes a value has no backslash. -/
theorem isValue_true : IsValue true v ↔ '\\' ∉ v := Iff.rfl

/-- Without quotes a value is a bare run. -/
theorem isValue_false : IsValue false v ↔ v ≠ [] ∧ IsBareRun v := Iff.rfl

/-- The piece of a value behind a field name. -/
def valuePiece (exact : Bool) (v : List Char) : Piece :=
  ⟨if exact then .quotedValue else .value, v, valueText exact v⟩

/-- The piece of a value behind a range operator. -/
def endPiece (exact : Bool) (v : List Char) : Piece :=
  ⟨if exact then .phrase else .word, v, valueText exact v⟩

/-- A quote begins a quoted value. -/
theorem fieldValue_quote (cs : List Char) : fieldValue ('"' :: cs) =
    ((quoted .quotedValue cs).1 :: (rangeTail (quoted .quotedValue cs).2).1,
      (rangeTail (quoted .quotedValue cs).2).2) := by
  unfold fieldValue
  rfl

/-- A bare character begins a bare value. -/
theorem fieldValue_cons {c : Char} (hc : isBare c = true) (cs : List Char) : fieldValue (c :: cs) =
    (Piece.plain .value (bareValue ((c :: cs).takeWhile isBare)) ::
        (rangeTail ((c :: cs).drop (bareValue ((c :: cs).takeWhile isBare)).length)).1,
      (rangeTail ((c :: cs).drop (bareValue ((c :: cs).takeWhile isBare)).length)).2) := by
  unfold fieldValue
  split
  · next h => simp at h
  · next h =>
    obtain ⟨rfl, rfl⟩ := List.cons.inj h
    exact absurd hc (by decide)
  · next h =>
    obtain ⟨rfl, rfl⟩ := List.cons.inj h
    rw [if_pos hc]

/-- A quote begins a quoted end. -/
theorem rangeEnd_quote (cs : List Char) : rangeEnd ('"' :: cs) =
    ([(quoted .phrase cs).1], (quoted .phrase cs).2) := by
  unfold rangeEnd
  rfl

/-- A bare character begins a bare end. -/
theorem rangeEnd_cons {c : Char} (hc : isBare c = true) (cs : List Char) : rangeEnd (c :: cs) =
    ([Piece.plain .word ((c :: cs).takeWhile isBare)], (c :: cs).dropWhile isBare) := by
  unfold rangeEnd
  split
  · next h => simp at h
  · next h =>
    obtain ⟨rfl, rfl⟩ := List.cons.inj h
    exact absurd hc (by decide)
  · next h =>
    obtain ⟨rfl, rfl⟩ := List.cons.inj h
    rw [if_pos hc]

/-- Letters in front of a colon are the name of a field. -/
theorem fieldName?_colon (hw : ∀ c ∈ w, isAsciiLetter c = true) (hne : w ≠ [])
    (rest : List Char) : fieldName? (w ++ ':' :: rest) = some (w, rest) := by
  have htake : (w ++ ':' :: rest).takeWhile isAsciiLetter = w := by
    rw [List.takeWhile_append_of_pos hw, List.takeWhile_cons_of_neg (by decide), List.append_nil]
  have hdrop : (w ++ ':' :: rest).dropWhile isAsciiLetter = ':' :: rest := by
    rw [List.dropWhile_append_of_pos hw, List.dropWhile_cons_of_neg (by decide)]
  cases w with
  | nil => exact absurd rfl hne
  | cons c w => simp only [fieldName?, htake, hdrop]

/-- A range operator follows only if there is one. -/
theorem rangeTail_of_ends (hr : Ends rest) : rangeTail rest = ([], rest) := by
  unfold rangeTail
  split
  · next cs =>
    have hdot : isBare '.' = false := hr '.' rfl
    exact absurd hdot (by decide)
  · rfl

/-- A value in quotes is read as it is. -/
theorem fieldValue_quoted (hv : '\\' ∉ v) (rest : List Char) :
    fieldValue (inQuotes v ++ rest) =
      (valuePiece true v :: (rangeTail rest).1, (rangeTail rest).2) := by
  rw [inQuotes, List.cons_append, List.append_assoc, List.singleton_append, fieldValue_quote,
    quoted_inQuotes .quotedValue hv]
  rfl

/-- A bare value behind a field name is the part of the bare run before a range operator. -/
theorem fieldValue_bare (hne : v ≠ []) (hv : IsBareRun v)
    (hrun : bareValue ((v ++ rest).takeWhile isBare) = v) :
    fieldValue (v ++ rest) =
      (valuePiece false v :: (rangeTail rest).1, (rangeTail rest).2) := by
  cases v with
  | nil => exact absurd rfl hne
  | cons c v =>
    have hc : isBare c = true := hv c List.mem_cons_self
    rw [List.cons_append] at hrun ⊢
    rw [fieldValue_cons hc, hrun, ← List.cons_append, List.drop_left]
    rfl

/-- A value without dots is read up to where it ends. -/
theorem fieldValue_of_ends {exact : Bool} (hv : IsValue exact v)
    (hdots : exact = false → ¬['.', '.'] <:+: v) (hr : Ends rest) :
    fieldValue (valueText exact v ++ rest) = ([valuePiece exact v], rest) := by
  cases exact with
  | true =>
    rw [valueText, if_pos rfl, fieldValue_quoted (isValue_true.1 hv), rangeTail_of_ends hr]
  | false =>
    obtain ⟨hne, hbare⟩ := isValue_false.1 hv
    have hrun : bareValue ((v ++ rest).takeWhile isBare) = v := by
      rw [takeWhile_isBare hbare hr, bareValue, cut?_eq_none_iff.2 (hdots rfl)]
    rw [valueText, if_neg (by decide), fieldValue_bare hne hbare hrun, rangeTail_of_ends hr]

/-- The end of a range is taken up to where its bare run or its quotes end. -/
theorem rangeEnd_of_ends {exact : Bool} (hv : IsValue exact v) (hr : Ends rest) :
    rangeEnd (valueText exact v ++ rest) = ([endPiece exact v], rest) := by
  cases exact with
  | true =>
    rw [valueText, if_pos rfl, inQuotes, List.cons_append, List.append_assoc,
      List.singleton_append, rangeEnd_quote, quoted_inQuotes .phrase (isValue_true.1 hv)]
    rfl
  | false =>
    obtain ⟨hne, hbare⟩ := isValue_false.1 hv
    cases v with
    | nil => exact absurd rfl hne
    | cons c v =>
      have hc : isBare c = true := hbare c List.mem_cons_self
      rw [valueText, if_neg (by decide), List.cons_append, rangeEnd_cons hc, ← List.cons_append,
        takeWhile_isBare hbare hr, dropWhile_isBare hbare hr]
      rfl

/-- The pieces of a range. -/
def rangePieces (startExact stopExact : Bool) (start stop : List Char) : List Piece :=
  [valuePiece startExact start, Piece.plain .range ['.', '.'], endPiece stopExact stop]

/-- Two values with dots between them are read as a range. -/
theorem fieldValue_range {start stop : List Char} {startExact stopExact : Bool}
    (hstart : IsValue startExact start) (hdot : startExact = false → '.' ∉ start)
    (hstop : IsValue stopExact stop) (hr : Ends rest) :
    fieldValue (valueText startExact start ++ ('.' :: '.' :: (valueText stopExact stop ++ rest))) =
      (rangePieces startExact stopExact start stop, rest) := by
  have htail : rangeTail ('.' :: '.' :: (valueText stopExact stop ++ rest)) =
      ([Piece.plain .range ['.', '.'], endPiece stopExact stop], rest) := by
    rw [rangeTail, rangeEnd_of_ends hstop hr]
  cases startExact with
  | true => rw [valueText, if_pos rfl, fieldValue_quoted (isValue_true.1 hstart), htail]; rfl
  | false =>
    obtain ⟨hne, hbare⟩ := isValue_false.1 hstart
    have hrun : bareValue ((start ++ ('.' :: '.' :: (valueText stopExact stop ++ rest))).takeWhile
        isBare) = start := by
      rw [List.takeWhile_append_of_pos hbare, List.takeWhile_cons_of_pos (by decide),
        List.takeWhile_cons_of_pos (by decide), bareValue]
      have hcut := cut?_append (hdot rfl) ['.'] ((valueText stopExact stop ++ rest).takeWhile isBare)
      rw [show start ++ ('.' :: '.' :: (valueText stopExact stop ++ rest).takeWhile isBare) =
        start ++ ('.' :: ['.'] ++ (valueText stopExact stop ++ rest).takeWhile isBare) from rfl, hcut]
      cases start with
      | nil => exact absurd rfl hne
      | cons c start => rfl
    rw [valueText, if_neg (by decide), fieldValue_bare hne hbare hrun, htail]
    rfl

/-- A field name with what is glued to it. -/
theorem scans_field {name : List Char} {ps : List Piece} (hname : ∀ c ∈ name, isAsciiLetter c = true)
    (hne : name ≠ []) (h : ∀ rest, Ends rest → fieldValue (w ++ rest) = (ps, rest)) :
    Scans position (name ++ ':' :: w)
      (Piece.place position (⟨.field, name, name ++ [':']⟩ :: ps)) := by
  cases name with
  | nil => exact absurd rfl hne
  | cons c name =>
    have hletter : isAsciiLetter c = true := hname c List.mem_cons_self
    have hopens : opensWord c := by
      intro hmem
      have hall : ∀ d ∈ ['(', ')', '"', '[', '-'], isAsciiLetter d = false := by
        simp [isAsciiLetter]
      rw [hall c hmem] at hletter
      exact absurd hletter (by decide)
    have hb : isBlank c = false := by
      have hbare := isBare_of_isAsciiLetter hletter
      cases hblank : isBlank c
      · rfl
      · simp [isBare, hblank] at hbare
    have hchunk : ∀ rest, Ends rest → chunk c (name ++ ':' :: w ++ rest) =
        (⟨.field, c :: name, c :: name ++ [':']⟩ :: ps, rest) := by
      intro rest hr
      rw [chunk_eq_fieldOrWord hopens, List.append_assoc, List.cons_append, ← List.cons_append,
        fieldOrWord, fieldName?_colon hname hne]
      simp only [h rest hr]
    exact scans_of_chunk hb hchunk

end Lexer

end TaskQuery
