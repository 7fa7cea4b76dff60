import TaskQuery.Proofs.Text.Lowering

/-!
# Lower case inside a text

Which form a capital sigma takes in lower case depends on the letters around it.  So a part of a
text is put in lower case otherwise than on its own, as soon as it holds a capital sigma whose
neighbours lie outside.

* `lowerBetween` is lower case between two other texts, `lowerAfter_append` cuts a text in lower
  case.
* `isSteady` says that the capital sigmas of a text have their neighbours in the text itself, and
  `isSteady_iff` that this is the same as one lower case wherever the text stands.
* `lower_infix_of_isSteady`: a steady part of a text is a part of it in lower case too.
* `lower_append_cons`: behind and before a barrier, such as a slash, nothing outside matters, so
  that `splitOn_lower` puts the parts between slashes in lower case one by one.
-/

namespace TaskQuery.Text

variable {s t u : List Char} {c d : Char}

/-- Lower case of a text that stands between `before`, whose nearest character comes first, and
`after`. -/
def lowerBetween : (before s after : List Char) → List Char
  | _, [], _ => []
  | before, c :: cs, after =>
    (if c = 'Σ' then [if isFinalSigma before (cs ++ after) then 'ς' else 'σ'] else lowerChar c) ++
      lowerBetween (c :: before) cs after

/-- The lower case of two texts is that of the first one between its surroundings, and that of the
second one behind it. -/
theorem lowerAfter_append (before s t : List Char) :
    lowerAfter before (s ++ t) =
      lowerBetween before s t ++ lowerAfter (s.reverse ++ before) t := by
  induction s generalizing before with
  | nil => rfl
  | cons c s ih =>
    rw [List.cons_append, lowerAfter, lowerBetween, ih, List.append_assoc, List.reverse_cons,
      List.append_assoc, List.singleton_append]

/-- With nothing behind it a text is at the end. -/
theorem lowerBetween_nil (before s : List Char) : lowerBetween before s [] = lowerAfter before s := by
  have h := lowerAfter_append before s []
  rwa [List.append_nil, lowerAfter, List.append_nil, eq_comm] at h

/-- The surroundings matter by the forms that they give to the capital sigmas. -/
theorem lowerBetween_congr {before before' after after' : List Char}
    (h : ∀ a b, s = a ++ 'Σ' :: b → isFinalSigma (a.reverse ++ before) (b ++ after) =
      isFinalSigma (a.reverse ++ before') (b ++ after')) :
    lowerBetween before s after = lowerBetween before' s after' := by
  induction s generalizing before before' with
  | nil => rfl
  | cons c s ih =>
    have htail : lowerBetween (c :: before) s after = lowerBetween (c :: before') s after' := by
      refine ih fun a b heq => ?_
      have hform := h (c :: a) b (by rw [heq, List.cons_append])
      simpa only [List.reverse_cons, List.append_assoc, List.singleton_append] using hform
    rw [lowerBetween, lowerBetween, htail]
    by_cases hc : c = 'Σ'
    · have hfirst : isFinalSigma before (s ++ after) = isFinalSigma before' (s ++ after') :=
        h [] s (by rw [hc, List.nil_append])
      rw [if_pos hc, if_pos hc, hfirst]
    · rw [if_neg hc, if_neg hc]

/-! ## Steady texts -/

/-- Whether the first character that matters for case is a cased letter, when there is one. -/
def facing? (s : List Char) : Option Bool :=
  (s.find? (!caseIgnorablePoints.contains ·)).map casedPoints.contains

/-- What a text faces is decided by itself, or else by what stands behind it. -/
theorem facesCased_append (s t : List Char) :
    facesCased (s ++ t) = (facing? s).getD (facesCased t) := by
  rw [facesCased, List.find?_append, facing?]
  cases s.find? (!caseIgnorablePoints.contains ·) <;> rfl

/-- Whether the form of a capital sigma between `front`, nearest character first, and `back` is
settled by the two, whatever stands outside: both sides face a character that matters for case, or
what one of them faces makes the sigma not final. -/
def isSettled (front back : List Char) : Bool :=
  match facing? front, facing? back with
  | some false, _ | _, some true | some true, some false => true
  | none, some false | some true, none | none, none => false

/-- Settled means that what stands outside does not matter. -/
theorem isSettled_iff {front back : List Char} :
    isSettled front back = true ↔
      ∀ before after, isFinalSigma (front ++ before) (back ++ after) = isFinalSigma front back := by
  have hfront := facesCased_append front []
  have hback := facesCased_append back []
  have hletter : facesCased ['a'] = true := by decide
  have hnothing : facesCased [] = false := rfl
  rw [List.append_nil, hnothing] at hfront hback
  simp only [isFinalSigma, facesCased_append front, facesCased_append back, hfront, hback, isSettled]
  rcases facing? front with _ | (_ | _) <;> rcases facing? back with _ | (_ | _)
  case none.none | none.some.false =>
    -- a letter in front makes the sigma final
    refine iff_of_false (by decide) fun h => ?_
    simpa [hletter, hnothing] using h ['a'] []
  case some.true.none =>
    -- a letter behind makes the sigma not final
    refine iff_of_false (by decide) fun h => ?_
    simpa [hletter, hnothing] using h [] ['a']
  all_goals simp

/-- Whether the forms of all capital sigmas are settled in a text that stands behind `front`. -/
def isSteadyAfter : (front s : List Char) → Bool
  | _, [] => true
  | front, c :: cs => (c ≠ 'Σ' || isSettled front cs) && isSteadyAfter (c :: front) cs

/-- Whether the forms of all capital sigmas of a text are settled by the text itself. -/
def isSteady (s : List Char) : Bool := isSteadyAfter [] s

/-- A text is steady if its lower case does not depend on what stands around it. -/
theorem isSteadyAfter_iff {front : List Char} :
    isSteadyAfter front s = true ↔
      ∀ before after, lowerBetween (front ++ before) s after = lowerBetween front s [] := by
  induction s generalizing front with
  | nil => exact iff_of_true rfl fun _ _ => rfl
  | cons c s ih =>
    have hcons : ∀ before after,
        lowerBetween (front ++ before) (c :: s) after = lowerBetween front (c :: s) [] ↔
          (c = 'Σ' → isFinalSigma (front ++ before) (s ++ after) = isFinalSigma front s) ∧
            lowerBetween (c :: front ++ before) s after = lowerBetween (c :: front) s [] := by
      intro before after
      rw [lowerBetween, lowerBetween, List.append_nil]
      by_cases hc : c = 'Σ'
      · simp only [hc, if_true, List.cons.injEq, forall_const, List.cons_append]
        refine and_congr_left fun _ => ?_
        cases isFinalSigma (front ++ before) (s ++ after) <;> cases isFinalSigma front s <;> decide
      · simp only [hc, if_false, List.append_cancel_left_eq, List.cons_append, false_imp_iff, true_and]
    simp only [hcons, forall_and, ← ih, isSteadyAfter, Bool.and_eq_true, Bool.or_eq_true,
      decide_eq_true_eq, isSettled_iff]
    refine and_congr_left fun _ => ?_
    by_cases hc : c = 'Σ' <;> simp [hc]

/-- **A text is steady exactly when it has the same lower case wherever it stands.** -/
theorem isSteady_iff :
    isSteady s = true ↔ ∀ before after, lowerBetween before s after = lower s := by
  rw [isSteady, isSteadyAfter_iff, lower, lowerBetween_nil]
  rfl

/-- Without a capital sigma a text is steady. -/
theorem isSteady_of_not_mem (h : 'Σ' ∉ s) : isSteady s = true := by
  refine isSteady_iff.2 fun before after => ?_
  rw [lower, ← lowerBetween_nil]
  refine lowerBetween_congr ?_
  rintro a b rfl
  exact absurd (List.mem_append_right a List.mem_cons_self) h

/-- **A steady part of a text is a part of it in lower case too.** -/
theorem lower_infix_of_isSteady (h : isSteady u = true) (hu : u <:+: s) : lower u <:+: lower s := by
  obtain ⟨a, b, rfl⟩ := hu
  have hcut : lower (a ++ u ++ b) =
      lowerBetween [] a (u ++ b) ++ (lower u ++ lowerAfter (u.reverse ++ (a.reverse ++ [])) b) := by
    rw [List.append_assoc, lower, lowerAfter_append, lowerAfter_append, isSteady_iff.1 h]
  exact ⟨_, _, (List.append_assoc _ _ _).trans hcut.symm⟩

/-- A capital sigma with a letter behind it is steady, one at the end is not: `ΟΔΟΣ` ends otherwise
as a part of `ΟΔΟΣΗΜΑ` than on its own. -/
example : isSteady "ΣΟΔΟ".toList = true ∧ isSteady "ΟΔΟΣ".toList = false ∧
    Text.contains (lower "ΟΔΟΣ".toList) (lower "ΟΔΟΣΗΜΑ".toList) = false := by
  decide

/-! ## Barriers -/

/-- A character that is neither a letter nor passed over in the search for one. -/
def IsBarrier (c : Char) : Prop :=
  caseIgnorablePoints.contains c = false ∧ casedPoints.contains c = false

/-- Whether a character is a barrier can be checked. -/
instance (c : Char) : Decidable (IsBarrier c) := inferInstanceAs (Decidable (_ ∧ _))

/-- What stands behind a barrier is not faced. -/
theorem facesCased_append_barrier (hc : IsBarrier c) (s t : List Char) :
    facesCased (s ++ c :: t) = facesCased s := by
  rw [facesCased, facesCased, List.find?_append, List.find?_cons_of_pos (by rw [hc.1]; rfl)]
  cases s.find? (!caseIgnorablePoints.contains ·) with
  | none => exact hc.2
  | some d => rfl

/-- On either side of a barrier a text is put in lower case on its own. -/
theorem lower_append_cons (hc : IsBarrier c) (hself : lowerChar c = [c]) (s t : List Char) :
    lower (s ++ c :: t) = lower s ++ c :: lower t := by
  have hsigma : c ≠ 'Σ' := by
    rintro rfl
    exact absurd hc (by decide)
  have hfront : lowerBetween [] s (c :: t) = lower s := by
    rw [lower, ← lowerBetween_nil]
    refine lowerBetween_congr fun a b _ => ?_
    rw [isFinalSigma, isFinalSigma, facesCased_append_barrier hc, List.append_nil b]
  have hback : lowerAfter (c :: (s.reverse ++ [])) t = lower t := by
    rw [lower, ← lowerBetween_nil, ← lowerBetween_nil]
    refine lowerBetween_congr fun a b _ => ?_
    rw [isFinalSigma, isFinalSigma, facesCased_append_barrier hc, List.append_nil a.reverse]
  rw [lower, lowerAfter_append, hfront, lowerAfter, if_neg hsigma, hself, hback,
    List.singleton_append]

/-- The slash is a barrier. -/
theorem isBarrier_slash : IsBarrier '/' := by
  decide

/-- Lower case is taken on both sides of a slash on its own. -/
theorem lower_append_slash (s t : List Char) : lower (s ++ '/' :: t) = lower s ++ '/' :: lower t :=
  lower_append_cons isBarrier_slash (by decide) s t

/-- **The parts between slashes are put in lower case one by one.** -/
theorem splitOn_lower (s : List Char) : splitOn ['/'] (lower s) = (splitOn ['/'] s).map lower :=
  splitOn_map (mt (mem_of_mem_lower (by decide))) lower_append_slash s

end TaskQuery.Text
