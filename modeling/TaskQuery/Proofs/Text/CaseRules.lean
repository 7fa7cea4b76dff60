import TaskQuery.Text.Casing

/-!
# Runs of code points

A rule of the case tables moves the code points of a run.  Whether the runs of a table and what they
lead to have code points in common is read off the bits of two numbers.

* `applyRules_cases`: a code point stays where it is, or a rule says where it goes.
* `mem_flatten_points`, `mem_flatten_images`: then it is in a run, and goes to an image of the run.
* `not_mem_of_bits`: sets of code points that have no bit in common are disjoint.
-/

namespace TaskQuery.Text

/-! ## Rules -/

namespace CaseRule

variable {r : CaseRule} {n m : Nat}

/-- The code points of the run. -/
def points (r : CaseRule) : List Nat :=
  List.range' r.first ((r.last - r.first) / r.step + 1) r.step

/-- Where the code points of the run go. -/
def images (r : CaseRule) : List Nat := r.points.map fun (n : Nat) => ((n : Int) + r.shift).toNat

/-- A rule moves the code points of its run. -/
theorem apply?_eq_some_iff :
    r.apply? n = some m ↔
      r.first ≤ n ∧ n ≤ r.last ∧ (n - r.first) % r.step = 0 ∧ (n + r.shift).toNat = m := by
  unfold CaseRule.apply?
  simp only [Bool.and_eq_true, decide_eq_true_eq, beq_iff_eq, Option.ite_none_right_eq_some,
    Option.some.injEq, and_assoc]

/-- A rule changes only points of its own. -/
theorem mem_points_of_apply? (h : r.apply? n = some m) : n ∈ r.points := by
  obtain ⟨hfirst, hlast, hstep, -⟩ := apply?_eq_some_iff.1 h
  have hdivision := Nat.div_add_mod (n - r.first) r.step
  have hlength := Nat.div_le_div_right (c := r.step) (Nat.sub_le_sub_right hlast r.first)
  exact List.mem_range'.2 ⟨(n - r.first) / r.step, by omega, by omega⟩

/-- A rule leads only to images of its own. -/
theorem mem_images_of_apply? (h : r.apply? n = some m) : m ∈ r.images := by
  obtain ⟨-, -, -, himage⟩ := apply?_eq_some_iff.1 h
  exact List.mem_map.2 ⟨n, mem_points_of_apply? h, himage⟩

end CaseRule

section Tables

variable {rules : List CaseRule} {r : CaseRule} {n m : Nat}

/-- A point that a rule of the table changes is among those of the table. -/
theorem mem_flatten_points (hr : r ∈ rules) (h : r.apply? n = some m) :
    n ∈ (rules.map CaseRule.points).flatten :=
  List.mem_flatten_of_mem (List.mem_map_of_mem hr) (CaseRule.mem_points_of_apply? h)

/-- An image that a rule of the table leads to is among those of the table. -/
theorem mem_flatten_images (hr : r ∈ rules) (h : r.apply? n = some m) :
    m ∈ (rules.map CaseRule.images).flatten :=
  List.mem_flatten_of_mem (List.mem_map_of_mem hr) (CaseRule.mem_images_of_apply? h)

end Tables

/-- A code point stays where it is when no rule is about it, and else goes where a rule says. -/
theorem applyRules_cases (rules : List CaseRule) (n : Nat) :
    ((∀ r ∈ rules, r.apply? n = none) ∧ applyRules rules n = n) ∨
      ∃ r ∈ rules, r.apply? n = some (applyRules rules n) := by
  rw [applyRules]
  cases h : rules.findSome? fun r => r.apply? n with
  | none => exact .inl ⟨List.findSome?_eq_none_iff.1 h, rfl⟩
  | some m => exact .inr (List.exists_of_findSome?_eq_some h)

/-- What is no code point of a character stands for NUL. -/
theorem toNat_ofNat_cases (n : Nat) : (Char.ofNat n).toNat = n ∨ (Char.ofNat n).toNat = 0 := by
  by_cases hvalid : n.isValidChar
  · rw [Char.ofNat, dif_pos hvalid]
    exact .inl rfl
  · rw [Char.ofNat, dif_neg hvalid]
    exact .inr rfl

/-! ## Sets of code points -/

/-- The code points in some lists, as the bits of a number. -/
def bits (lists : List (List Nat)) : Nat :=
  lists.foldr (fun ns b => ns.foldr (fun n b => 1 <<< n ||| b) b) 0

/-- A bit of the number tells whether the point is in a list. -/
theorem testBit_bits (lists : List (List Nat)) (n : Nat) :
    (bits lists).testBit n = decide (n ∈ lists.flatten) := by
  have hlist : ∀ (ns : List Nat) (b : Nat),
      (ns.foldr (fun n b => 1 <<< n ||| b) b).testBit n = (decide (n ∈ ns) || b.testBit n) := by
    intro ns b
    induction ns with
    | nil => simp
    | cons m ns ih =>
      rw [List.foldr_cons, Nat.testBit_or, Nat.one_shiftLeft, Nat.testBit_two_pow, ih,
        ← Bool.or_assoc]
      by_cases hm : m = n
      · simp [hm]
      · simp [hm, Ne.symm hm]
  induction lists with
  | nil => simp [bits]
  | cons ns lists ih =>
    have hcons : bits (ns :: lists) = ns.foldr (fun n b => 1 <<< n ||| b) (bits lists) := rfl
    rw [hcons, hlist, ih, List.flatten_cons, Bool.eq_iff_iff]
    simp

/-- Without a bit in common there is no code point in common. -/
theorem not_mem_of_bits {as bs : List (List Nat)} {n : Nat} (h : bits as &&& bits bs = 0)
    (ha : n ∈ as.flatten) : n ∉ bs.flatten := by
  intro hb
  have hboth : (bits as &&& bits bs).testBit n = true := by
    rw [Nat.testBit_and, testBit_bits, testBit_bits, decide_eq_true ha, decide_eq_true hb]
    rfl
  rw [h, Nat.zero_testBit] at hboth
  cases hboth

end TaskQuery.Text
