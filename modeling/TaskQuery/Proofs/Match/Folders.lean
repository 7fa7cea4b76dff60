import TaskQuery.Proofs.Files.PathName
import TaskQuery.Proofs.Match.Fields
import TaskQuery.Proofs.Text.Surroundings

/-!
# Paths by their components

A filter on the path compares texts, with a slash behind what is looked for, and the parts between
slashes.  Both come to the same: what is looked for and the path are compared component by
component, so that no component is ever found by a part of it.

* `IsComponents`: what the components of a path are like.
* `join_append`, `join_eq_or_prefix_iff`: a text of joined components begins with another one, up to
  a slash, exactly when the components do.
* `strip_slashes`: slashes around the components do not count.
* `fold_join`: letter case is taken off the components one by one.
* `matchesLeaf_path`: what a filter on the path finds.
-/

namespace TaskQuery

namespace Text

variable {ws vs : List (List Char)} {c : Char}

/-- The components of a path: there is one, and each of them holds something but no slash. -/
structure IsComponents (ws : List (List Char)) : Prop where
  /-- There is a component. -/
  ne_nil : ws ≠ []
  /-- Components hold something but no slash. -/
  parts : ∀ w ∈ ws, w ≠ [] ∧ '/' ∉ w

/-- Joined components are split as they were. -/
theorem IsComponents.splitOn_join (h : IsComponents ws) : splitOn ['/'] (join ['/'] ws) = ws :=
  Text.splitOn_join h.ne_nil fun w hw => (h.parts w hw).2

/-- The joined components determine them. -/
theorem IsComponents.join_inj (hw : IsComponents ws) (hv : IsComponents vs)
    (h : join ['/'] ws = join ['/'] vs) : ws = vs := by
  rw [← hw.splitOn_join, h, hv.splitOn_join]

/-- Components stay components under a change that keeps them from being empty or split. -/
theorem IsComponents.map {f : List Char → List Char} (h : IsComponents ws)
    (hne : ∀ w, w ≠ [] → f w ≠ []) (hslash : ∀ w, '/' ∉ w → '/' ∉ f w) :
    IsComponents (ws.map f) := by
  refine ⟨mt List.map_eq_nil_iff.1 h.ne_nil, fun v hv => ?_⟩
  obtain ⟨w, hw, rfl⟩ := List.mem_map.1 hv
  obtain ⟨hfirst, hsecond⟩ := h.parts w hw
  exact ⟨hne w hfirst, hslash w hsecond⟩

/-- A component comes in front, with a separator behind it. -/
theorem join_cons (w : List Char) (h : ws ≠ []) :
    join [c] (w :: ws) = w ++ c :: join [c] ws := by
  obtain ⟨v, vs, rfl⟩ := List.exists_cons_of_ne_nil h
  simp [join]

/-- Rows of components are joined by one more separator. -/
theorem join_append (hw : ws ≠ []) (hv : vs ≠ []) :
    join [c] (ws ++ vs) = join [c] ws ++ c :: join [c] vs := by
  induction ws with
  | nil => exact absurd rfl hw
  | cons w ws ih =>
    by_cases hnil : ws = []
    · rw [hnil, List.singleton_append, join_cons w hv]
      rfl
    · have happ : ws ++ vs ≠ [] := by simp [hnil]
      rw [List.cons_append, join_cons w happ, join_cons w hnil, ih hnil, List.append_assoc,
        List.cons_append]

/-- Joined components in front of a separator are the first parts of the text. -/
theorem splitOn_join_append (hne : ws ≠ []) (h : ∀ w ∈ ws, c ∉ w) (rest : List Char) :
    splitOn [c] (join [c] ws ++ c :: rest) = ws ++ splitOn [c] rest := by
  induction ws with
  | nil => exact absurd rfl hne
  | cons w ws ih =>
    obtain ⟨hw, hws⟩ := List.forall_mem_cons.1 h
    by_cases hnil : ws = []
    · subst hnil
      exact splitOn_append hw rest
    · rw [join_cons w hnil, List.append_assoc, List.cons_append, splitOn_append hw, ih hnil hws,
        List.cons_append]

/-- **The text begins with the components, up to a slash or its end, exactly when its components
do.** -/
theorem join_eq_or_prefix_iff (hw : IsComponents ws) (hv : IsComponents vs) :
    (join ['/'] vs = join ['/'] ws ∨ join ['/'] ws ++ ['/'] <+: join ['/'] vs) ↔ ws <+: vs := by
  constructor
  · rintro (h | ⟨rest, h⟩)
    · rw [hv.join_inj hw h]
    · rw [List.append_assoc, List.singleton_append] at h
      have hsplit := splitOn_join_append hw.ne_nil (fun w hmem => (hw.parts w hmem).2) rest
      rw [h, hv.splitOn_join] at hsplit
      exact ⟨_, hsplit.symm⟩
  · rintro ⟨us, rfl⟩
    by_cases hnil : us = []
    · exact .inl (by rw [hnil, List.append_nil])
    · right
      rw [join_append hw.ne_nil hnil]
      exact ⟨join ['/'] us, by simp⟩

/-! ## Slashes around a path -/

/-- Joined components are not empty. -/
theorem join_ne_nil (h : IsComponents ws) : join ['/'] ws ≠ [] := by
  intro hnil
  have hsplit := h.splitOn_join
  rw [hnil, splitOn_of_not_mem [] List.not_mem_nil] at hsplit
  exact (h.parts [] (hsplit ▸ List.mem_singleton_self _)).1 rfl

/-- Joined components do not begin with a slash. -/
theorem head?_join_ne (h : IsComponents ws) : (join ['/'] ws).head? ≠ some '/' := by
  intro hhead
  obtain ⟨rest, hrest⟩ := List.head?_eq_some_iff.1 hhead
  have hsplit := h.splitOn_join
  have hfirst : splitOn ['/'] ('/' :: rest) = [] :: splitOn ['/'] rest :=
    splitOn_append List.not_mem_nil rest
  rw [hrest, hfirst] at hsplit
  exact (h.parts [] (hsplit ▸ List.mem_cons_self)).1 rfl

/-- Joined components do not end with a slash. -/
theorem getLast?_join_ne (h : IsComponents ws) : (join ['/'] ws).getLast? ≠ some '/' := by
  obtain rfl | ⟨front, w, hws⟩ := List.eq_nil_or_concat ws
  · exact absurd rfl h.ne_nil
  · rw [List.concat_eq_append] at hws
    subst hws
    obtain ⟨hne, hslash⟩ := h.parts w (by simp)
    have hlast : (join ['/'] (front ++ [w])).getLast? = w.getLast? := by
      by_cases hnil : front = []
      · rw [hnil]
        rfl
      · rw [join_append hnil (List.cons_ne_nil w []), List.append_cons]
        exact List.getLast?_append_of_ne_nil _ hne
    intro hmem
    rw [hlast] at hmem
    exact hslash (List.mem_of_getLast? hmem)

/-- All slashes in front are dropped. -/
theorem dropWhile_slashes {s : List Char} (h : s.head? ≠ some '/') (n : Nat) :
    (List.replicate n '/' ++ s).dropWhile (· = '/') = s := by
  rw [List.dropWhile_append_of_pos (by simp)]
  cases s with
  | nil => rfl
  | cons c s =>
    have hc : c ≠ '/' := fun hc => h (by rw [hc]; rfl)
    rw [List.dropWhile_cons_of_neg (by simpa using hc)]

/-- Slashes around the components do not count. -/
theorem strip_slashes (h : IsComponents ws) (m n : Nat) :
    strip (· = '/') (List.replicate m '/' ++ join ['/'] ws ++ List.replicate n '/') =
      join ['/'] ws := by
  have hfront : (join ['/'] ws ++ List.replicate n '/').head? ≠ some '/' := by
    rw [List.head?_append_of_ne_nil _ (join_ne_nil h)]
    exact head?_join_ne h
  have hback : (join ['/'] ws).reverse.head? ≠ some '/' := by
    rw [List.head?_reverse]
    exact getLast?_join_ne h
  rw [strip, List.append_assoc, dropWhile_slashes hfront, List.reverse_append,
    List.reverse_replicate, dropWhile_slashes hback, List.reverse_reverse]

end Text

namespace Scope

open Text

variable {s : Scope} {p w : List (List Char)}

/-- Letter case is taken off the components one by one. -/
theorem fold_join (s : Scope) (ws : List (List Char)) :
    s.fold (join ['/'] ws) = join ['/'] (ws.map s.fold) := by
  have hcons : ∀ u v : List Char, s.fold (u ++ '/' :: v) = s.fold u ++ '/' :: s.fold v := by
    intro u v
    unfold fold
    split
    · rfl
    · exact lower_append_slash u v
  induction ws with
  | nil =>
    unfold fold
    split <;> rfl
  | cons w ws ih =>
    by_cases hnil : ws = []
    · rw [hnil]
      rfl
    · have hmap : ws.map s.fold ≠ [] := mt List.map_eq_nil_iff.1 hnil
      rw [join_cons w hnil, hcons, ih, List.map_cons, join_cons _ hmap]

/-- Components stay components as they are compared. -/
theorem isComponents_fold (s : Scope) (h : IsComponents w) : IsComponents (w.map s.fold) := by
  apply h.map
  · intro v hv
    unfold fold
    split
    · exact hv
    · exact lower_ne_nil hv
  · intro v hv
    unfold fold
    split
    · exact hv
    · exact mt (mem_of_mem_lower (by decide)) hv

/-- A filter on the path compares components. -/
theorem matchesPath_components (hp : IsComponents p) (hw : IsComponents w)
    (hpath : s.task.path = String.ofList (join ['/'] p)) (m n : Nat) (exact : Bool) :
    s.matchesPath (List.replicate m '/' ++ join ['/'] w ++ List.replicate n '/') exact = true ↔
      w.map s.fold <+: p.map s.fold ∨
        exact = false ∧ w.map s.fold <:+: p.dropLast.map s.fold := by
  have hpfold := isComponents_fold s hp
  have hwfold := isComponents_fold s hw
  have hne : s.task.path ≠ "" := by
    rw [hpath]
    exact fun h => join_ne_nil hp (by simpa using h)
  rw [matchesPath_iff, strip_slashes hw, hpath, String.toList_ofList, fold_join, fold_join,
    hwfold.splitOn_join, hpfold.splitOn_join, ← or_assoc, join_eq_or_prefix_iff hwfold hpfold,
    List.map_dropLast, ← hpath]
  constructor
  · rintro ⟨-, -, h⟩
    exact h
  · intro h
    exact ⟨hne, join_ne_nil hwfold, h⟩

/-- **A filter on the path compares components.**  Slashes around the value do not count.  A quoted
value is found when its components are the first ones of the path, and any other value also when they
stand side by side somewhere in front of its last component.  They are compared as they are, or each
in lower case when letter case does not count; so no component is found by a part of it. -/
theorem matchesLeaf_path (hp : IsComponents p) (hw : IsComponents w)
    (hpath : s.task.path = String.ofList (join ['/'] p)) (m n : Nat) :
    let value := String.ofList (List.replicate m '/' ++ join ['/'] w ++ List.replicate n '/')
    s.matchesLeaf (.field "path" value true) = .ok (decide (w.map s.fold <+: p.map s.fold)) ∧
      s.matchesLeaf (.field "path" value false) =
        .ok (decide (w.map s.fold <+: p.map s.fold ∨ w.map s.fold <:+: p.dropLast.map s.fold)) := by
  intro value
  have hvalue : value ≠ "" := by
    intro hnil
    have hlist := congrArg String.toList hnil
    rw [String.toList_ofList] at hlist
    obtain ⟨hleft, -⟩ := List.append_eq_nil_iff.1 hlist
    exact join_ne_nil hw (List.append_eq_nil_iff.1 hleft).2
  have hleaf : ∀ exact, s.matchesLeaf (.field "path" value exact) =
      .ok (s.matchesPath (List.replicate m '/' ++ join ['/'] w ++ List.replicate n '/') exact) := by
    intro exact
    rw [← String.toList_ofList (l := List.replicate m '/' ++ join ['/'] w ++ List.replicate n '/')]
    simp only [matchesLeaf, test, matchesField, Field.ofName?, if_neg hvalue, lenient]
    rfl
  have hfound : ∀ exact, s.matchesLeaf (.field "path" value exact) =
      .ok (decide (w.map s.fold <+: p.map s.fold ∨
        exact = false ∧ w.map s.fold <:+: p.dropLast.map s.fold)) := by
    intro exact
    rw [hleaf, Except.ok.injEq, Bool.eq_iff_iff, matchesPath_components hp hw hpath,
      decide_eq_true_iff]
  exact ⟨by simpa using hfound true, by simpa using hfound false⟩

/-- Two folders in the middle of a path, with slashes around them and in other letters. -/
theorem matchesLeaf_path_projects :
    let s : Scope :=
      { task := { path := "Work/Projects/Alpha/plan.md" }, caseSensitive := false, settings := {}
        properties := [], clock := ⟨2024, 1, 10, by decide⟩ }
    let p := ["Work".toList, "Projects".toList, "Alpha".toList, "plan.md".toList]
    let w := ["projects".toList, "ALPHA".toList]
    IsComponents p ∧ IsComponents w ∧ s.task.path = String.ofList (join ['/'] p) ∧
      s.matchesLeaf (.field "path" "/projects/ALPHA//" true) = .ok false ∧
      s.matchesLeaf (.field "path" "/projects/ALPHA//" false) = .ok true := by
  intro s p w
  have hp : IsComponents p := ⟨by decide, by decide⟩
  have hw : IsComponents w := ⟨by decide, by decide⟩
  have hpath : s.task.path = String.ofList (join ['/'] p) := by decide
  obtain ⟨hexact, hplain⟩ := matchesLeaf_path hp hw hpath 1 2
  have hvalue : String.ofList (List.replicate 1 '/' ++ join ['/'] w ++ List.replicate 2 '/') =
      "/projects/ALPHA//" := by decide
  rw [hvalue] at hexact hplain
  refine ⟨hp, hw, hpath, hexact.trans ?_, hplain.trans ?_⟩
  · decide +kernel
  · decide +kernel

end Scope

end TaskQuery
