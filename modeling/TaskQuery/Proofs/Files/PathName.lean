import Mathlib.Data.List.Infix
import Mathlib.Tactic.IntervalCases
import TaskQuery.Files.PathName
import TaskQuery.Proofs.Text.Plain

/-!
# Texts of paths

Many texts write the same path, since slashes and single dots in between are dropped.  A path
writes itself: the text that it is shown as is read as the same path again.

* `PathName.IsPath`: what the slashes and the components of a path are like.
* `PathName.ofText_text`: a path is read back from its text.
-/

namespace TaskQuery

namespace Text

variable {s : List Char} {c : Char} {ws : List (List Char)}

/-- What is joined falls apart again at a separator that does not occur in the parts. -/
theorem splitOn_join (hne : ws ≠ []) (h : ∀ w ∈ ws, c ∉ w) : splitOn [c] (join [c] ws) = ws := by
  induction ws with
  | nil => exact absurd rfl hne
  | cons w ws ih =>
    obtain ⟨hw, hws⟩ := List.forall_mem_cons.1 h
    cases ws with
    | nil => exact splitOn_of_not_mem [] hw
    | cons v ws =>
      have hjoin : join [c] (w :: v :: ws) = w ++ c :: join [c] (v :: ws) := by
        simp [join]
      rw [hjoin, splitOn_append hw, ih (List.cons_ne_nil v ws) hws]

/-- The pieces of a text do not hold the character that parts them. -/
theorem not_mem_of_mem_splitOn {w : List Char} (h : w ∈ splitOn [c] s) : c ∉ w := by
  induction s using splitOn.induct [c] with
  | case1 s hnil => cases hnil
  | case2 s hne hcut =>
    have hc : c ∉ s := fun hmem => cut?_eq_none_iff.1 hcut ((List.singleton_infix_iff c _).2 hmem)
    rw [splitOn_of_not_mem [] hc, List.mem_singleton] at h
    rwa [h]
  | case3 s hne before after hcut ih =>
    have hc : c ∉ before := fun hmem =>
      not_infix_of_cut? hcut hne ((List.singleton_infix_iff c _).2 hmem)
    rw [splitOn_of_cut? hne hcut, List.mem_cons] at h
    rcases h with rfl | h
    · exact hc
    · exact ih h

end Text

namespace PathName

open Text

/-- What a path is like: it has at most two slashes in front, and its components name something. -/
structure IsPath (p : PathName) : Prop where
  slashes : p.slashes ≤ 2
  parts : ∀ part ∈ p.parts, part ≠ "" ∧ part ≠ "." ∧ '/' ∉ part.toList

/-- At most two slashes in front count. -/
theorem leadingSlashes_le (s : List Char) : leadingSlashes s ≤ 2 := by
  unfold leadingSlashes
  split <;> omega

/-- What is read from a text is a path. -/
theorem isPath_ofText (s : String) : (ofText s).IsPath := by
  refine ⟨leadingSlashes_le _, fun part hpart => ?_⟩
  obtain ⟨hpart, hnames⟩ := List.mem_filter.1 hpart
  obtain ⟨w, hw, rfl⟩ := List.mem_map.1 hpart
  obtain ⟨hne, hdot⟩ := by simpa using hnames
  exact ⟨by simpa using hne, by simpa using hdot, by simpa using not_mem_of_mem_splitOn hw⟩

/-- A slash in front is no component. -/
theorem components_slash (s : List Char) : components ('/' :: s) = components s := by
  have hsplit : splitOn ['/'] ('/' :: s) = [] :: splitOn ['/'] s :=
    splitOn_append List.not_mem_nil s
  rw [components, hsplit]
  rfl

/-- Joined components are found again. -/
theorem components_joined {parts : List String}
    (h : ∀ part ∈ parts, part ≠ "" ∧ part ≠ "." ∧ '/' ∉ part.toList) :
    components (joined parts) = parts := by
  cases parts with
  | nil => simp [components, joined, join, splitOn_of_not_mem]
  | cons first rest =>
    have hsplit : splitOn ['/'] (joined (first :: rest)) = (first :: rest).map String.toList := by
      refine splitOn_join (by simp) fun w hw => ?_
      obtain ⟨part, hpart, rfl⟩ := List.mem_map.1 hw
      exact (h part hpart).2.2
    rw [components, hsplit, List.map_map, List.filter_eq_self.2]
    · simp
    · intro part hpart
      obtain ⟨hne, hdot, -⟩ := h part (by simpa using hpart)
      simp [hne, hdot]

/-- The components of a path are found again in its text. -/
theorem components_text {p : PathName} (h : p.IsPath) :
    components (List.replicate p.slashes '/' ++ joined p.parts) = p.parts := by
  induction p.slashes with
  | zero => exact components_joined h.parts
  | succ n ih => rw [List.replicate_succ, List.cons_append, components_slash, ih]

/-- Joined components do not begin with a slash. -/
theorem takeWhile_joined {parts : List String}
    (h : ∀ part ∈ parts, part ≠ "" ∧ part ≠ "." ∧ '/' ∉ part.toList) :
    (joined parts).takeWhile (· = '/') = [] := by
  cases parts with
  | nil => rfl
  | cons first rest =>
    obtain ⟨hne, -, hslash⟩ := h first List.mem_cons_self
    cases hfirst : first.toList with
    | nil => exact absurd (String.toList_eq_nil_iff.1 hfirst) hne
    | cons c cs =>
      have hc : c ≠ '/' := by
        rintro rfl
        exact hslash (hfirst ▸ List.mem_cons_self)
      cases rest <;> simp [joined, join, hfirst, hc]

/-- The slashes in front of a path are found again in its text. -/
theorem leadingSlashes_text {p : PathName} (h : p.IsPath) :
    leadingSlashes (List.replicate p.slashes '/' ++ joined p.parts) = p.slashes := by
  have hfront : (List.replicate p.slashes '/' ++ joined p.parts).takeWhile (· = '/') =
      List.replicate p.slashes '/' := by
    rw [List.takeWhile_append_of_pos (by simp), takeWhile_joined h.parts, List.append_nil]
  rw [leadingSlashes, hfront, List.length_replicate]
  have hslashes := h.slashes
  interval_cases p.slashes <;> rfl

/-- A path is read back from its text. -/
theorem ofText_text {p : PathName} (h : p.IsPath) : ofText p.text = p := by
  unfold text
  split
  · next hempty =>
    obtain ⟨hslashes, hparts⟩ := by simpa using hempty
    obtain ⟨slashes, parts⟩ := p
    obtain rfl : slashes = 0 := hslashes
    obtain rfl : parts = [] := hparts
    rw [ofText, components, String.toList_ofList, splitOn_of_not_mem [] (by decide)]
    rfl
  · rw [ofText, String.toList_ofList, leadingSlashes_text h, components_text h]

end PathName

end TaskQuery
