import TaskQuery.Proofs.Match.LetterCase
import TaskQuery.Proofs.Text.Words

/-!
# Exact filters

A value in double quotes makes a filter exact.  Each field has its own meaning of this: the folders
in front instead of any folders, the whole name or its stem instead of a part, the text without the
blanks around it, the keyword instead of its group.  In each of them what an exact filter matches is
matched by the same filter when it is not exact.

* `lower_trim_infix`: a text without the blanks around it is a part of the
  text in lower case too, because a capital sigma takes its form from no letter behind a blank.
* `matchesFile_of_exact`, `matchesContent_of_exact`, …: the fields one by one.
* `matchesLeaf_of_exact`: all of them, and properties.
-/

namespace TaskQuery

open Text

namespace Text

variable {s : List Char} {c : Char}

/-! ## The parts of texts -/

/-- Behind blanks no letter is seen. -/
theorem facesCased_append_allBlank {t : List Char} (h : AllBlank t) (s : List Char) :
    facesCased (s ++ t) = facesCased s := by
  cases t with
  | nil => rw [List.append_nil]
  | cons c t => exact facesCased_append_barrier (isBarrier_of_isBlank (h c List.mem_cons_self)) s t

/-- Between blanks a text is put in lower case on its own. -/
theorem lowerBetween_allBlank {before after : List Char} (hbefore : AllBlank before)
    (hafter : AllBlank after) : lowerBetween before s after = lower s := by
  rw [lower, ← lowerBetween_nil]
  refine lowerBetween_congr fun a b _ => ?_
  rw [isFinalSigma, isFinalSigma, facesCased_append_allBlank hbefore,
    facesCased_append_allBlank hafter, List.append_nil, List.append_nil]

/-- **A trimmed text is a part of the text in lower case too.** -/
theorem lower_trim_infix (s : List Char) : lower (trim s) <:+: lower s := by
  obtain ⟨front, back, hfront, hback, hs⟩ := exists_trim_between s
  have hfront' : AllBlank (front.reverse ++ []) := by
    intro c hc
    exact hfront c (by simpa using hc)
  have hlower : lower s = lowerBetween [] front (trim s ++ back) ++
      (lower (trim s) ++ lowerAfter ((trim s).reverse ++ (front.reverse ++ [])) back) := by
    conv_lhs => rw [hs]
    rw [lower, lowerAfter_append, lowerAfter_append, lowerBetween_allBlank hfront' hback]
  rw [hlower]
  exact ⟨_, _, List.append_assoc _ _ _⟩

end Text

/-- The stem of a name is a part of it, namely its front. -/
theorem stem_infix (name : List Char) : stem name <:+: name := by
  by_cases hdot : '.' ∈ name.reverse
  · obtain ⟨rest, front, hname, hrest⟩ := List.eq_append_cons_of_mem hdot
    obtain rfl : name = front.reverse ++ '.' :: rest.reverse := by
      rw [← List.reverse_reverse name, hname]
      simp
    rw [stem_append_dot (by simpa using hrest)]
    exact (List.prefix_append front.reverse _).isInfix
  · rw [stem_of_not_mem (by simpa using hdot)]

namespace Scope

variable {s : Scope} {value : List Char}

/-- A trimmed text stands in the whole one, also as they are compared. -/
theorem fold_trim_infix (s : Scope) (text : List Char) : s.fold (trim text) <:+: s.fold text := by
  rw [fold, fold]
  split
  · exact infix_trim text
  · exact lower_trim_infix text

/-! ## Fields -/

/-- A path that is found in quotes is found without them. -/
theorem matchesPath_of_exact (h : s.matchesPath value true = true) :
    s.matchesPath value false = true := by
  rw [matchesPath_iff] at h ⊢
  obtain ⟨hpath, hvalue, hplace⟩ := h
  refine ⟨hpath, hvalue, ?_⟩
  rcases hplace with hsame | hfolder | ⟨hexact, -⟩
  · exact .inl hsame
  · exact .inr (.inl hfolder)
  · exact Bool.noConfusion hexact

/-- A file that is found in quotes is found without them. -/
theorem matchesFile_of_exact (h : s.matchesFile value true = true) :
    s.matchesFile value false = true := by
  rw [matchesFile_iff] at h ⊢
  obtain ⟨hname, hsame⟩ := h
  refine ⟨hname, ?_⟩
  show s.fold value <:+: s.fold s.task.fileName
  rcases hsame with hsame | hstem
  · rw [hsame]
  · rw [hstem]
    exact stem_infix _

/-- A tag that is found in quotes is found without them. -/
theorem matchesTag_of_exact (h : s.matchesTag value true = true) :
    s.matchesTag value false = true := by
  rw [matchesTag_iff] at h ⊢
  obtain ⟨hvalue, tag, htag, hsame⟩ := h
  refine ⟨hvalue, tag, htag, ?_⟩
  rw [hsame]

/-- A text that is found in quotes is found without them. -/
theorem matchesContent_of_exact (h : s.matchesContent value true = true) :
    s.matchesContent value false = true := by
  rw [matchesContent_iff] at h ⊢
  obtain ⟨htext, hsame⟩ := h
  refine ⟨htext, ?_⟩
  show s.fold value <:+: s.fold s.task.text.toList
  rw [← show s.fold (trim s.task.text.toList) = s.fold value from hsame]
  exact fold_trim_infix s s.task.text.toList

/-- A state that is found in quotes is found without them. -/
theorem matchesState_of_exact (h : s.matchesState value true = true) :
    s.matchesState value false = true := by
  rw [matchesState_iff] at h ⊢
  rcases h with hsame | ⟨hexact, -⟩
  · exact .inl hsame
  · exact Bool.noConfusion hexact

/-- On a field that holds a text an exact filter keeps its result, or matches when it is no longer
exact. -/
theorem matchesField_of_exact {name value : String} (hname : name ∈ textFields) :
    Verdict.Widens (s.matchesField name value true) (s.matchesField name value false) := by
  obtain ⟨field, hfield, hscheduled, hdeadline⟩ := exists_field_of_mem_textFields hname
  simp only [matchesField, hfield]
  by_cases hvalue : value = ""
  · rw [if_pos hvalue, if_pos hvalue]
    exact .refl _
  rw [if_neg hvalue, if_neg hvalue]
  cases field with
  | path => exact Verdict.widens_ok matchesPath_of_exact
  | file => exact Verdict.widens_ok matchesFile_of_exact
  | tag => exact Verdict.widens_ok matchesTag_of_exact
  | content => exact Verdict.widens_ok matchesContent_of_exact
  | state => exact Verdict.widens_ok matchesState_of_exact
  | priority => exact .refl _
  | scheduled => exact absurd rfl hscheduled
  | deadline => exact absurd rfl hdeadline

/-! ## Properties -/

/-- A text that compares in quotes compares without them. -/
theorem comparesText_of_exact {text : List Char} (h : s.comparesText value text true = true) :
    s.comparesText value text false = true := by
  rw [comparesText_iff] at h ⊢
  show s.fold value <:+: s.fold text
  rw [← show s.fold text = s.fold value from h]

/-- A value that matches in quotes matches without them. -/
theorem matchesValue_of_exact (s : Scope) (wanted : List Char) (actual : Value) :
    Verdict.Widens (s.matchesValue wanted actual true) (s.matchesValue wanted actual false) := by
  obtain ⟨b, hb⟩ | ⟨-, htext⟩ := matchesValue_cases wanted actual
  · rw [hb, hb]
    exact .refl _
  · rw [htext, htext]
    exact .orElse (.refl _) (widens_matchesPropertyText rfl fun _ => comparesText_of_exact)

/-- **Quotes only narrow a filter.**  What an exact filter on a text field or a property matches, the
same filter matches when it is not exact. -/
theorem matchesLeaf_of_exact (s : Scope) :
    (∀ name ∈ textFields, ∀ value, s.matchesLeaf (.field name value true) = .ok true →
      s.matchesLeaf (.field name value false) = .ok true) ∧
    (∀ text, s.matchesLeaf (.property text true) = .ok true →
      s.matchesLeaf (.property text false) = .ok true) := by
  have hmatch : ∀ {v w : Verdict}, v.Widens w → v = .ok true → w = .ok true := by
    rintro v w (rfl | rfl) h
    · exact h
    · rfl
  constructor
  · intro name hname value
    exact hmatch (widens_lenient (matchesField_of_exact hname) _)
  · intro text
    refine hmatch (widens_lenient (widens_matchesProperty rfl ?_) _)
    intro value _ wanted _ actual
    exact matchesValue_of_exact s wanted actual

/-- `content:"οδος"` matches the text `ΟΔΟΣ` between blanks, in which the last sigma has its final form
with and without the blanks, and so does `content:οδος`; `[kind:"Letter"]` and `[kind:Letter]` match
the property. -/
theorem matchesLeaf_of_exact_odos :
    let s : Scope :=
      { task := { path := "a.md", text := "\u2003ΟΔΟΣ " }, caseSensitive := false, settings := {}
        properties := [("kind", .text "letter")], clock := ⟨2024, 1, 10, by decide⟩ }
    "content" ∈ textFields ∧ s.matchesLeaf (.field "content" "οδος" true) = .ok true ∧
      s.matchesLeaf (.field "content" "οδος" false) = .ok true ∧
        s.matchesLeaf (.property "kind:Letter" true) = .ok true ∧
          s.matchesLeaf (.property "kind:Letter" false) = .ok true := by
  intro s
  obtain ⟨hfield, hproperty⟩ := matchesLeaf_of_exact s
  have hname : "content" ∈ textFields := by decide
  have hcontent : s.matchesLeaf (.field "content" "οδος" true) = .ok true := by decide +kernel
  have hkind : s.matchesLeaf (.property "kind:Letter" true) = .ok true := by decide +kernel
  exact ⟨hname, hcontent, hfield _ hname _ hcontent, hkind, hproperty _ hkind⟩

end Scope

end TaskQuery
