import TaskQuery.Proofs.Query.Grammar
import TaskQuery.Proofs.Query.Writing

/-!
# Reading a leaf back

The tokens of a written leaf are read as the leaf.

* `wordKind_eq_word`: a word that is a keyword in no letter case is a plain word.
* `Leaf.toList_eq_propertyText`, `Leaf.ofProperty_propertyPiece`: a property text is its key and its
  value, and the token of a written property gives the property.
* `Leaf.scans_written`: the tokens of a written leaf, wherever it stands.
-/

namespace TaskQuery

open Text Lexer

/-- A character that is no blank, parenthesis or quote may stand in a bare word. -/
theorem isBare_of {c : Char} (hb : isBlank c = false) (hc : c ∉ ['(', ')', '"']) :
    isBare c = true := by
  simp only [List.mem_cons, List.not_mem_nil, or_false, not_or] at hc
  simp [isBare, hb, hc]

/-- A word in no case a keyword is a plain word. -/
theorem wordKind_eq_word {w : List Char} (h : String.ofList (upper w) ∉ ["AND", "OR", "NOT"]) :
    wordKind w = .word := by
  simp only [List.mem_cons, List.not_mem_nil, or_false, not_or] at h
  unfold wordKind
  split
  · next heq => exact absurd heq h.1
  · next heq => exact absurd heq h.2.1
  · next heq => exact absurd heq h.2.2
  · rfl

/-- A text that is not empty has characters. -/
theorem toList_ne_nil {s : String} (h : s ≠ "") : s.toList ≠ [] := mt String.toList_eq_nil_iff.1 h

/-- Characters make a text that is not empty. -/
theorem ofList_ne_empty {w : List Char} (h : w ≠ []) : String.ofList w ≠ "" := by
  intro heq
  have hnil := String.toList_eq_nil_iff.2 heq
  rw [String.toList_ofList] at hnil
  exact h hnil

namespace Leaf

/-- A normal value is a value that can be written. -/
theorem isValue_of_isNormalValue {exact : Bool} {value : String} (h : IsNormalValue exact value) :
    IsValue exact value.toList := by
  cases exact with
  | true => exact h
  | false =>
    obtain ⟨hne, hchars⟩ := h
    exact ⟨toList_ne_nil hne, fun c hc => isBare_of (hchars c hc).1 (hchars c hc).2⟩

/-- A key without a colon is found again, whatever value there is. -/
theorem propertyKey_propertyText {key : List Char} (h : ':' ∉ key) (value : Option (List Char)) :
    propertyKey (String.ofList (propertyText key value)) = String.ofList key := by
  have hplain : ∀ c ∈ key, (decide (c ≠ ':')) = true := by
    intro c hc
    rw [decide_eq_true_eq]
    rintro rfl
    exact h hc
  rw [propertyKey, String.toList_ofList]
  cases value with
  | none =>
    have happ : (key ++ []).takeWhile (· ≠ ':') = key ++ [].takeWhile (· ≠ ':') :=
      List.takeWhile_append_of_pos hplain
    rw [propertyText, ← List.append_nil key, happ, List.takeWhile_nil]
  | some v =>
    rw [propertyText, List.takeWhile_append_of_pos hplain, List.takeWhile_cons_of_neg (by simp),
      List.append_nil]

/-- Behind a key without a colon the value is found again. -/
theorem propertyValue?_propertyText {key : List Char} (h : ':' ∉ key)
    (value : Option (List Char)) :
    propertyValue? (String.ofList (propertyText key value)) = value.map String.ofList := by
  rw [propertyValue?, String.toList_ofList]
  cases value with
  | none => rw [propertyText, cut?_of_not_mem [] h, Option.map_none, Option.map_none]
  | some v =>
    have hcut : cut? [':'] (propertyText key (some v)) = some (key, v) := cut?_append h [] v
    rw [hcut, Option.map_some, Option.map_some]

/-- The text of a property is its key and its value again. -/
theorem toList_eq_propertyText (text : String) : text.toList =
    propertyText (propertyKey text).toList ((propertyValue? text).map String.toList) := by
  obtain ⟨key, value, hkey, htext⟩ :
      ∃ key value, ':' ∉ key ∧ text = String.ofList (propertyText key value) := by
    by_cases h : ':' ∈ text.toList
    · obtain ⟨key, value, htext, hkey⟩ := List.eq_append_cons_of_mem h
      exact ⟨key, some value, hkey, by rw [propertyText, ← htext, String.ofList_toList]⟩
    · exact ⟨text.toList, none, h, String.ofList_toList.symm⟩
  rw [htext, propertyKey_propertyText hkey, propertyValue?_propertyText hkey]
  cases value <;> simp [propertyText]

/-- The leaf that is made of the token of a property.  A colon without a value counts as none. -/
theorem ofProperty_bracketPiece {inner key : List Char} {value : Option (List Char)}
    (hsplit : Property.split inner = (key, value)) (position : Nat) :
    Query.ofProperty ((bracketPiece inner).toToken position) =
      .leaf (.property
        (if propertyValue? (String.ofList (propertyValue (Property.unquote key) value)) = some ""
          then propertyKey (String.ofList (propertyValue (Property.unquote key) value))
          else String.ofList (propertyValue (Property.unquote key) value))
        (Property.isQuoted key || value.any Property.isQuoted)) position := by
  simp only [Query.ofProperty, bracketPiece, Piece.toToken, String.toList_ofList, List.tail_cons,
    List.dropLast_concat, hsplit]

/-- The leaf of a property that is made of parts. -/
theorem ofProperty_propertyPiece {key : List Char} {value : Option (List Char)} (hkey : IsPart key)
    (hvalue : ∀ v ∈ value, IsPart v) (quoteKey quoteValue : Bool) (position : Nat) :
    Query.ofProperty ((propertyPiece quoteKey quoteValue key value).toToken position) =
      .leaf (.property (String.ofList (propertyText key value))
        (quoteKey || value.any fun _ => quoteValue)) position := by
  have hnot : propertyValue? (String.ofList (propertyText key value)) ≠ some "" := by
    rw [propertyValue?_propertyText hkey.colon_not_mem]
    cases value with
    | none => simp
    | some v => simpa using ofList_ne_empty (hvalue v rfl).ne_nil
  have hexact : (value.map (partText quoteValue)).any Property.isQuoted =
      value.any fun _ => quoteValue := by
    cases value with
    | none => rfl
    | some v => exact isQuoted_partText (hvalue v rfl) quoteValue
  rw [← bracketPiece_innerText hkey hvalue,
    ofProperty_bracketPiece (split_innerText hkey hvalue quoteKey quoteValue),
    propertyValue_partText hkey hvalue, if_neg hnot, isQuoted_partText hkey, hexact]

variable {l : Leaf}

/-- The token of a piece has its value. -/
theorem toToken_value (p : Piece) (position : Nat) :
    (p.toToken position).value = String.ofList p.value := rfl

/-- The token of a piece has its kind. -/
theorem toToken_kind (p : Piece) (position : Nat) : (p.toToken position).kind = p.kind := rfl

/-- A written word is scanned and read as itself. -/
theorem scans_written_term {value : String} (h : IsNormal (.term value)) (position : Nat) :
    ∃ ts, Scans position value.toList ts ∧ Operand.Reads ts (.test (.term value) position) := by
  obtain ⟨hne, hchars, hkeyword⟩ := h
  have hkind : wordKind value.toList = .word := wordKind_eq_word hkeyword
  have hbare : IsBareRun value.toList := by
    intro c hc
    obtain ⟨hb, hmem⟩ := hchars c hc
    refine isBare_of hb fun h => hmem ?_
    exact List.mem_append_left ['[', '-', ':'] h
  have hcolon : ':' ∉ value.toList := fun hc => (hchars ':' hc).2 (by decide)
  have hscans : Scans position value.toList [wordToken value.toList position] := by
    cases hv : value.toList with
    | nil => exact absurd hv (toList_ne_nil hne)
    | cons c w =>
      rw [hv] at hbare hcolon
      refine scans_word hbare (fun h => (hchars c (hv ▸ List.mem_cons_self)).2 ?_) hcolon
      exact List.mem_append_left [':'] h
  refine ⟨_, hscans, ?_⟩
  have hvalue : (wordToken value.toList position).value = value := by
    rw [wordToken, hkind]
    exact String.ofList_toList
  have hread := Operand.Reads.word (t := wordToken value.toList position) hkind
  rw [hvalue] at hread
  exact hread

/-- A written phrase is scanned and read as itself. -/
theorem scans_written_phrase {value : String} (h : IsNormal (.phrase value)) (position : Nat) :
    ∃ ts, Scans position (inQuotes value.toList) ts ∧
      Operand.Reads ts (.test (.phrase value) position) := by
  refine ⟨_, scans_quoted h, ?_⟩
  have hread := Operand.Reads.phrase
    (t := Piece.toToken ⟨.phrase, value.toList, inQuotes value.toList⟩ position) rfl
  rw [toToken_value, String.ofList_toList] at hread
  exact hread

/-- A small letter can stand in a field name, and is its own lower case. -/
theorem isAsciiLetter_of_isLower {c : Char} (h : c.isLower = true) :
    isAsciiLetter c = true ∧ c.toNat < 128 ∧ c.toLower = c := by
  obtain ⟨hlow, hhigh⟩ := Bool.and_eq_true_iff.1 h
  have h : 97 ≤ c.toNat ∧ c.toNat ≤ 122 :=
    ⟨UInt32.le_iff_toNat_le.1 (of_decide_eq_true hlow),
      UInt32.le_iff_toNat_le.1 (of_decide_eq_true hhigh)⟩
  refine ⟨?_, by omega, ?_⟩
  · simp only [isAsciiLetter, Bool.or_eq_true, Bool.and_eq_true, decide_eq_true_eq, Char.le_def,
      UInt32.le_iff_toNat_le]
    exact .inl h
  · refine dif_neg ?_
    rintro ⟨-, hcapital⟩
    rw [UInt32.le_iff_toNat_le] at hcapital
    change c.toNat ≤ 90 at hcapital
    omega

/-- A name of small letters is read as a field name and stays as it is. -/
theorem isFieldName {name : String} (h : ∀ c ∈ name.toList, c.isLower = true) :
    (∀ c ∈ name.toList, isAsciiLetter c = true) ∧ lowerString name = name := by
  refine ⟨fun c hc => (isAsciiLetter_of_isLower (h c hc)).1, ?_⟩
  rw [lowerString, lower_of_isLower fun c hc => (isAsciiLetter_of_isLower (h c hc)).2,
    String.ofList_toList]

/-- A written field is scanned and read as itself. -/
theorem scans_written_field {name value : String} {exact : Bool}
    (h : IsNormal (.field name value exact)) (position : Nat) :
    ∃ ts, Scans position (name.toList ++ ':' :: valueText exact value.toList) ts ∧
      Operand.Reads ts (.test (.field name value exact) position) := by
  obtain ⟨hname, hlower, hvalue, hdots⟩ := h
  obtain ⟨hletters, hsame⟩ := isFieldName hlower
  refine ⟨_, scans_field hletters (toList_ne_nil hname) fun rest hr =>
    fieldValue_of_ends (isValue_of_isNormalValue hvalue) hdots hr, ?_⟩
  have hread := Operand.Reads.field
    (f := Piece.toToken ⟨.field, name.toList, name.toList ++ [':']⟩ position)
    (v := (valuePiece exact value.toList).toToken (position + (name.toList ++ [':']).length)) rfl
    (by cases exact <;> rfl)
  simp only [toToken_value, toToken_kind, String.ofList_toList, valuePiece, hsame] at hread
  cases exact <;> exact hread

/-- A written range is scanned and read as itself. -/
theorem scans_written_range {name start stop : String} {startExact stopExact : Bool}
    (h : IsNormal (.range name start stop startExact stopExact)) (position : Nat) :
    ∃ ts, Scans position (name.toList ++ ':' :: (valueText startExact start.toList ++
        ('.' :: '.' :: valueText stopExact stop.toList))) ts ∧
      Operand.Reads ts (.test (.range name start stop startExact stopExact) position) := by
  obtain ⟨hname, hstart, hdot, hstop⟩ := h
  have hlower : name ≠ "" ∧ ∀ c ∈ name.toList, c.isLower = true := by
    simp only [dateFields, List.mem_cons, List.not_mem_nil, or_false] at hname
    rcases hname with rfl | rfl
    · exact ⟨by decide, List.all_eq_true.1 rfl⟩
    · exact ⟨by decide, List.all_eq_true.1 rfl⟩
  obtain ⟨hletters, hsame⟩ := isFieldName hlower.2
  have hpieces : ∀ rest, Ends rest → fieldValue (valueText startExact start.toList ++
      ('.' :: '.' :: valueText stopExact stop.toList) ++ rest) =
        (rangePieces startExact stopExact start.toList stop.toList, rest) := by
    intro rest hr
    rw [List.append_assoc, List.cons_append, List.cons_append]
    exact fieldValue_range (isValue_of_isNormalValue hstart) hdot (isValue_of_isNormalValue hstop) hr
  refine ⟨_, scans_field hletters (toList_ne_nil hlower.1) hpieces, ?_⟩
  have hvalue : ∀ p, ((valuePiece startExact start.toList).toToken p).kind.isOperandValue := by
    cases startExact <;> exact fun _ => rfl
  have hend : ∀ p, ((endPiece stopExact stop.toList).toToken p).kind.isOperandValue := by
    cases stopExact <;> exact fun _ => rfl
  have hread := fun p p' p'' => Operand.Reads.range
    (f := Piece.toToken ⟨.field, name.toList, name.toList ++ [':']⟩ position)
    (r := (Piece.plain .range ['.', '.']).toToken p') rfl (hvalue p) rfl (hend p'')
    (by rwa [toToken_value, String.ofList_toList, hsame])
  simp only [toToken_value, toToken_kind, String.ofList_toList, valuePiece, endPiece, hsame] at hread
  cases startExact <;> cases stopExact <;> exact hread _ _ _

/-- A written property is scanned and read as itself. -/
theorem scans_written_property {text : String} {exact : Bool} (h : IsNormal (.property text exact))
    (choice : Choice) (position : Nat) :
    ∃ ts, Scans position (written choice (.property text exact)) ts ∧
      Operand.Reads ts (.test (.property text exact) position) := by
  obtain ⟨hkey, hvalue⟩ := h
  have hparts : ∀ v ∈ (propertyValue? text).map String.toList, IsPart v := by
    intro v hv
    obtain ⟨u, hu, rfl⟩ := Option.map_eq_some_iff.1 hv
    exact hvalue u hu
  have hleaf := ofProperty_propertyPiece hkey hparts
    (exact && (choice.quoteKey || ((propertyValue? text).map String.toList).isNone))
    (exact && (choice.quoteValue || !choice.quoteKey)) position
  -- at least one part is in quotes when the property is exact, and none when it is not
  have hexact : ((exact && (choice.quoteKey || ((propertyValue? text).map String.toList).isNone)) ||
      ((propertyValue? text).map String.toList).any
        fun _ => exact && (choice.quoteValue || !choice.quoteKey)) = exact := by
    cases propertyValue? text <;> cases exact <;> cases choice.quoteKey <;> simp
  rw [← toList_eq_propertyText, String.ofList_toList, hexact] at hleaf
  exact ⟨_, scans_property hkey hparts _ _, .property rfl hleaf⟩

/-- The tokens of a written leaf are read as the leaf. -/
theorem scans_written (h : l.IsNormal) (choice : Choice) (position : Nat) :
    ∃ ts, Scans position (l.written choice) ts ∧ Operand.Reads ts (.test l position) := by
  cases l with
  | term value => exact scans_written_term h position
  | phrase value => exact scans_written_phrase h position
  | field name value exact => exact scans_written_field h position
  | property text exact => exact scans_written_property h choice position
  | range name start stop startExact stopExact => exact scans_written_range h position

end Leaf

end TaskQuery
