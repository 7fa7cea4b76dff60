import TaskQuery.Proofs.Query.RoundTrip

/-!
# Texts that are one property

A property in brackets is read as one test wherever it stands, in quotes or not, and with blanks
around its key and its value or without.

* `WritesTest`: wherever it stands, a text is read as the given test.
* `WritesTest.parse_eq`, `WritesTest.parse_or`: so it is a query on its own, and one with `OR`
  between it and another one.
* `writesTest_bracket`: contents of brackets that are split into a key and a value are a property.
* `writesTest_bareKey`: a key without quotes in front of any value.
-/

namespace TaskQuery

open Text Lexer

namespace Query

/-- Wherever it stands, the text is read as the test. -/
def WritesTest (w : List Char) (l : Leaf) : Prop :=
  ∀ position, ∃ ts, Scans position w ts ∧ Operand.Reads ts (.test l position)

variable {w v key : List Char} {value : Option (List Char)} {l l' : Leaf}

/-- A test on its own is a query. -/
theorem WritesTest.parse_eq (h : WritesTest w l) : parse (String.ofList w) = .ok (.leaf l 0) := by
  obtain ⟨ts, hscans, hreads⟩ := h 0
  refine parse_eq_ok_iff.2 ⟨.row (.test l 0) .nil, ?_, rfl⟩
  rw [hscans.scan_eq, ← List.append_nil ts]
  exact .row hreads .nil

/-- Two tests with `OR` between them are a query. -/
theorem WritesTest.parse_or (h : WritesTest w l) (h' : WritesTest v l') :
    ∃ p p', parse (String.ofList (w ++ (" OR ".toList ++ v))) =
      .ok (.or [.leaf l 0, .leaf l' p'] p) := by
  obtain ⟨ts, hts, hreads⟩ := h 0
  obtain ⟨_, hor, t, rfl, ht⟩ := writtenAs_keyword.2.1 (0 + w.length + 1)
  obtain ⟨us, hus, hreads'⟩ := h' (0 + w.length + 1 + ['O', 'R'].length + 1)
  have hscans : Scans 0 (w ++ (" OR ".toList ++ v)) (ts ++ ([t] ++ us)) :=
    hts.append (hor.append hus.blank (ends_cons (by decide) v)).blank (ends_cons (by decide) _)
  have hj : Joint.or.kind? = some t.kind := by rw [ht]; rfl
  have hrow := Expression.Reads.row hreads (.written hj hreads' .nil)
  rw [List.append_nil] at hrow
  exact ⟨t.position, _, parse_eq_ok_iff.2 ⟨_, by rw [hscans.scan_eq]; exact hrow, rfl⟩⟩

/-- A property in brackets is a test.  A colon without a value counts as no colon. -/
theorem writesTest_bracket {inner keyText : List Char} {valueText : Option (List Char)}
    (hinner : IsSpanned inner) (hsplit : Property.split inner = (keyText, valueText))
    (hne : Property.unquote keyText ≠ [])
    (htext : propertyValue (Property.unquote keyText) valueText = propertyText key value)
    (hcolon : ':' ∉ key) :
    WritesTest ('[' :: (inner ++ [']']))
      (.property (String.ofList (propertyText key (value.filter (· ≠ []))))
        (Property.isQuoted keyText || valueText.any Property.isQuoted)) := by
  -- an empty value is dropped together with its colon
  have hfilled : (if Leaf.propertyValue? (String.ofList (propertyText key value)) = some "" then
      Leaf.propertyKey (String.ofList (propertyText key value))
      else String.ofList (propertyText key value)) =
        String.ofList (propertyText key (value.filter (· ≠ []))) := by
    rw [Leaf.propertyValue?_propertyText hcolon, Leaf.propertyKey_propertyText hcolon]
    cases value with
    | none => rfl
    | some v =>
      cases v with
      | nil => rfl
      | cons c v => simp [Option.filter]
  intro position
  refine ⟨_, scans_bracket hinner (by rwa [hsplit]), .property rfl ?_⟩
  rw [Leaf.ofProperty_bracketPiece hsplit, htext, hfilled]
  rfl

/-- A key of letters is read back. -/
theorem isPart_of_isAsciiLetter (hne : key ≠ []) (h : key.all isAsciiLetter = true) :
    IsPart key where
  ne_nil := hne
  trim_eq := by
    refine trim_of_noBlank fun c hc => ?_
    have hbare := isBare_of_isAsciiLetter (List.all_eq_true.1 h c hc)
    simp only [isBare, Bool.and_eq_true, Bool.not_eq_true'] at hbare
    exact hbare.1.1.1
  plain c hc hmem := by
    have hletter := List.all_eq_true.1 h c hc
    simp only [List.mem_cons, List.not_mem_nil, or_false] at hmem
    rcases hmem with rfl | rfl | rfl | rfl | rfl <;> cases hletter

/-- A key without quotes in front of a value: the value is trimmed and taken out of its quotes. -/
theorem writesTest_bareKey {valueText : List Char} (hkey : IsPart key)
    (hspanned : IsSpanned valueText) (hvalue : Property.unquote (trim valueText) = v)
    (hne : v ≠ []) :
    WritesTest ('[' :: (key ++ ':' :: valueText ++ [']']))
      (.property (String.ofList (key ++ ':' :: v)) (Property.isQuoted (trim valueText))) := by
  have hsplit : Property.split (key ++ ':' :: valueText) = (key, some (trim valueText)) := by
    have hsplit := split_keyValue (hkey.isUncut false) valueText
    rwa [trim_partText hkey] at hsplit
  have hinner : IsSpanned (key ++ ':' :: valueText) := by
    have hcolon : IsSpanned [':'] := isSpanned_bare (by simp [IsInert])
    exact (hkey.isSpanned false).append (hcolon.append hspanned)
  have hunquote : Property.unquote key = key := unquote_partText hkey false
  have htext : propertyValue (Property.unquote key) (some (trim valueText)) =
      propertyText key (some v) := by
    rw [hunquote, propertyValue, hvalue]
    rfl
  have h := writesTest_bracket hinner hsplit (by rw [hunquote]; exact hkey.ne_nil) htext
    hkey.colon_not_mem
  rw [Option.filter_some_pos (by simp [hne]),
    show Property.isQuoted key = false from isQuoted_partText hkey false] at h
  exact h

end Query

end TaskQuery
