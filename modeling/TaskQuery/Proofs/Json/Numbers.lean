import TaskQuery.Json.Reader
import TaskQuery.Proofs.Number.Reading
import TaskQuery.Proofs.Query.Steps
import TaskQuery.Proofs.Value.Entries
import TaskQuery.Proofs.Value.Texts

/-!
# Whole numbers and nesting in JSON

A whole number is read back from its decimal digits when nothing behind it goes on with the
number: a point or an exponent would make it a fraction, and a digit another number.  There is a
bound on the digits that are read and one on the lists and objects inside one another, and so every
value that is read can be written again.

* `scalar_signedDecimal`: a written number is read back.
* `fits_of_read`: a value that is read keeps to both bounds.
-/

namespace TaskQuery

namespace Json

open Text

variable {s rest cs : List Char} {c : Char} {v : Value}

/-! ## Numbers that are written -/

/-- What may follow a number: nothing that would be taken for more of it. -/
def Stops (rest : List Char) : Prop :=
  ∀ c, rest.head? = some c → c.isDigit = false ∧ c ≠ '.' ∧ c ≠ 'e' ∧ c ≠ 'E'

/-- Nothing goes on at the end of the text. -/
theorem stops_nil : Stops [] := by
  rintro c ⟨⟩

/-- Digits are taken up to where they stop. -/
theorem takeWhile_isDigit_append (hs : ∀ c ∈ s, c.isDigit = true) (hrest : Stops rest) :
    (s ++ rest).takeWhile Char.isDigit = s := by
  rw [List.takeWhile_append_of_pos hs]
  cases rest with
  | nil => simp
  | cons c rest => simp [(hrest c rfl).1]

/-- Where a number stops there is no fraction. -/
theorem fractionPart_of_stops (h : Stops rest) : fractionPart rest = [] := by
  unfold fractionPart
  split
  · next ds => exact absurd rfl (h '.' rfl).2.1
  · rfl

/-- Where a number stops there is no exponent. -/
theorem exponentPart_of_stops (h : Stops rest) : exponentPart rest = [] := by
  cases rest with
  | nil => rfl
  | cons c rest =>
    obtain ⟨-, -, he, hE⟩ := h c rfl
    simp [exponentPart, he, hE]

/-- The digits of a number are taken whole. -/
theorem wholePart_decimal (n : Nat) (h : Stops rest) :
    wholePart (decimal n ++ rest) = decimal n := by
  obtain ⟨c, s, hn, hc, hzero⟩ := exists_decimal_eq_cons n
  have hdigits : ∀ d ∈ c :: s, d.isDigit = true := fun d hd => isDigit_of_mem_decimal (hn ▸ hd)
  rw [hn]
  unfold wholePart
  split
  -- a zero in front is read alone, but then it is the whole number
  · next heq =>
    obtain rfl := (List.cons.inj heq).1
    rw [hzero rfl]
  · exact takeWhile_isDigit_append hdigits h

/-- The digits of a number are read back as the number. -/
theorem unsigned_decimal {n : Nat} (hn : (decimal n).length ≤ maxNumberDigits) (h : Stops rest)
    (negative : Bool) : unsigned negative (decimal n ++ rest) =
      .ok (.int (if negative then -(n : Int) else n), (decimal n).length) := by
  have hne : (decimal n).isEmpty = false := by simpa using decimal_ne_nil n
  simp only [unsigned, wholePart_decimal n h, List.drop_left, fractionPart_of_stops h,
    List.length_nil, Nat.add_zero, exponentPart_of_stops h, hne, Binary64.digitsValue_decimal,
    List.isEmpty_nil, Bool.and_self, Bool.false_eq_true, if_false, if_true, gt_iff_lt,
    Nat.not_lt.2 hn]

/-- A reader takes a value from the front of a text and leaves the rest. -/
def Takes {α : Type} {bound : Nat} (r : Except Refusal (Reading α bound)) (a : α)
    (rest : List Char) : Prop :=
  ∃ h, r = .ok ⟨a, rest, h⟩

/-- A reading takes its value and leaves its rest. -/
theorem takes_ok {α : Type} {bound : Nat} {a b : α} (hrest : s.length < bound) (hvalue : b = a)
    (h : s = rest) : Takes (.ok (⟨b, s, hrest⟩ : Reading α bound)) a rest := by
  subst hvalue h
  exact ⟨hrest, rfl⟩

/-- No word begins with a digit. -/
theorem find?_words_of_isDigit (h : c.isDigit = true) (cs : List Char) :
    (words.find? fun (w, _) => w.isPrefixOf (c :: cs)) = none := by
  have hne (d : Char) (hd : d.isDigit = false) : d ≠ c := by
    rintro rfl
    simp [h] at hd
  simp [words, hne 'n', hne 't', hne 'f', hne 'N', hne 'I', hne '-']

/-- No word begins with a dash and a digit. -/
theorem find?_words_of_dash (h : c.isDigit = true) (cs : List Char) :
    (words.find? fun (w, _) => w.isPrefixOf ('-' :: c :: cs)) = none := by
  have hne : 'I' ≠ c := by
    rintro rfl
    cases h
  simp [words, hne]

/-- A written number is read back. -/
theorem scalar_signedDecimal {n : Int} (hn : isWritable n = true) (h : Stops rest) :
    ∃ c cs, signedDecimal n ++ rest = c :: cs ∧ (c = '-' ∨ c.isDigit = true) ∧
      Takes (scalar c cs) (.int n) rest := by
  obtain ⟨c, s, hcons, hc, -⟩ := exists_decimal_eq_cons n.natAbs
  have hread (negative : Bool) := unsigned_decimal (of_decide_eq_true hn) h negative
  unfold signedDecimal
  split
  · next hneg =>
    refine ⟨'-', decimal n.natAbs ++ rest, rfl, .inl rfl, ?_⟩
    rw [scalar, hcons, List.cons_append, find?_words_of_dash hc, ← List.cons_append, ← hcons]
    dsimp only
    rw [number, if_pos rfl, hread]
    refine takes_ok _ (congrArg Value.int ?_) List.drop_left
    rw [if_pos rfl]
    omega
  · next hnonneg =>
    refine ⟨c, s ++ rest, by rw [hcons]; rfl, .inr hc, ?_⟩
    have hdash : c ≠ '-' := by
      rintro rfl
      cases hc
    rw [scalar, find?_words_of_isDigit hc]
    dsimp only
    rw [number, if_neg hdash, ← List.cons_append, ← hcons, hread]
    refine takes_ok _ (congrArg Value.int ?_) ?_
    · rw [if_neg Bool.false_ne_true]
      omega
    · rw [hcons, List.length_cons, Nat.add_sub_cancel, List.drop_left]

/-! ## Values that are read -/

open Value (Fits)

/-- The number that digits write has no more digits. -/
theorem length_decimal_digitsValue_le (h : ∀ c ∈ s, c.isDigit = true) (hne : s ≠ []) :
    (decimal (Binary64.digitsValue s)).length ≤ s.length := by
  have hlt := ofDigitChars_lt h Nat.zero_lt_one
  rw [Nat.one_mul] at hlt
  exact (Nat.length_toDigits_le_iff (by decide) (List.length_pos_iff.2 hne)).2 hlt

/-- What is taken as the whole part is digits. -/
theorem isDigit_of_mem_wholePart (h : c ∈ wholePart cs) : c.isDigit = true := by
  unfold wholePart at h
  split at h
  · rw [List.mem_singleton.1 h]
    decide
  · exact List.all_eq_true.1 List.all_takeWhile c h

variable {nesting : Nat}

/-- A number that is read is not too long. -/
theorem fits_of_unsigned {negative : Bool} {taken : Nat}
    (h : unsigned negative cs = .ok (v, taken)) : Fits nesting v := by
  simp only [unsigned] at h
  split at h
  · cases h
  · next hne =>
    split at h
    · split at h
      · cases h
      · next hlen =>
        have hwhole : ∀ c ∈ wholePart cs, c.isDigit = true := fun c => isDigit_of_mem_wholePart
        have hdigits := length_decimal_digitsValue_le hwhole (by simpa using hne)
        obtain ⟨rfl, -⟩ := Prod.mk.inj (Except.ok.inj h)
        refine .int (decide_eq_true ?_)
        have hn : (if negative then -(Binary64.digitsValue (wholePart cs) : Int)
            else Binary64.digitsValue (wholePart cs)).natAbs =
              Binary64.digitsValue (wholePart cs) := by
          cases negative <;> simp
        rw [hn]
        exact Nat.le_trans hdigits (Nat.not_lt.1 hlen)
    · split at h
      · obtain ⟨rfl, -⟩ := Prod.mk.inj (Except.ok.inj h)
        exact .other (by simp) (by simp) (by simp)
      · cases h

/-- A number that is read is not too long, with a sign or without. -/
theorem fits_of_number {r : Reading Value (cs.length + 1)} (h : number c cs = .ok r) :
    Fits nesting r.value := by
  unfold number at h
  split at h
  all_goals
    obtain ⟨⟨v, taken⟩, hunsigned, heq⟩ := bind_eq_ok.1 h
    rw [← Except.ok.inj heq]
    exact fits_of_unsigned hunsigned

/-- Numbers and named values fit everywhere. -/
theorem fits_of_scalar {r : Reading Value (cs.length + 1)} (h : scalar c cs = .ok r) :
    Fits nesting r.value := by
  unfold scalar at h
  split at h
  · next w v hfind =>
    rw [← Except.ok.inj h]
    have hword := List.mem_of_find?_eq_some hfind
    simp only [words, List.mem_cons, Prod.mk.injEq, List.not_mem_nil, or_false] at hword
    rcases hword with ⟨-, rfl⟩ | ⟨-, rfl⟩ | ⟨-, rfl⟩ | ⟨-, rfl⟩ | ⟨-, rfl⟩ | ⟨-, rfl⟩ <;>
      exact .other (by simp) (by simp) (by simp)
  · exact fits_of_number h

/-- Every entry of an object that is read has its value from one of the pairs. -/
theorem exists_of_mem_entriesOf {pairs : List (List Nat × Value)} {e : String × Value}
    (h : e ∈ entriesOf pairs) : ∃ p ∈ pairs, e.2 = p.2 := by
  obtain ⟨q, hq, rfl⟩ := List.mem_map.1 h
  exact Entries.exists_of_mem_ofPairs hq

/-- A value that is read fits, if this is so for lists and objects in shorter texts. -/
theorem fits_of_value {r : Reading Value s.length} (h : value nesting s = .ok r)
    (hlist : ∀ inner cs, cs.length < s.length → ∀ r, elements inner cs = .ok r →
      ∀ v ∈ r.value, Fits inner v)
    (hobject : ∀ inner cs, cs.length < s.length → ∀ r, members inner cs = .ok r →
      ∀ e ∈ r.value, Fits inner e.2) :
    Fits nesting r.value := by
  rw [value] at h
  split at h
  · cases h
  · obtain ⟨r', -, heq⟩ := bind_eq_ok.1 h
    rw [← Except.ok.inj heq]
    exact .other (by simp [Reading.as]) (by simp [Reading.as]) (by simp [Reading.as])
  · next cs hs =>
    cases nesting with
    | zero => cases h
    | succ inner =>
      dsimp only at h
      split at h
      · rw [← Except.ok.inj h]
        exact .list (by simp)
      · obtain ⟨r', helements, heq⟩ := bind_eq_ok.1 h
        rw [← Except.ok.inj heq]
        exact .list (hlist inner cs (length_of_skip_cons hs) r' helements)
  · next cs hs =>
    cases nesting with
    | zero => cases h
    | succ inner =>
      dsimp only at h
      split at h
      · rw [← Except.ok.inj h]
        exact .object (by simp)
      · obtain ⟨r', hmembers, heq⟩ := bind_eq_ok.1 h
        rw [← Except.ok.inj heq]
        refine .object fun e he => ?_
        obtain ⟨p, hp, hvalue⟩ := exists_of_mem_entriesOf he
        rw [hvalue]
        exact hobject inner cs (length_of_skip_cons hs) r' hmembers p hp
  · obtain ⟨r', hscalar, heq⟩ := bind_eq_ok.1 h
    rw [← Except.ok.inj heq]
    exact fits_of_scalar hscalar

/-- The values of a list fit, if values do and the lists in shorter texts. -/
theorem fits_of_elements {r : Reading (List Value) s.length} (h : elements nesting s = .ok r)
    (hvalue : ∀ r, value nesting s = .ok r → Fits nesting r.value)
    (hmore : ∀ cs, cs.length < s.length → ∀ r, elements nesting cs = .ok r →
      ∀ v ∈ r.value, Fits nesting v) :
    ∀ v ∈ r.value, Fits nesting v := by
  rw [elements] at h
  obtain ⟨first, hfirst, h⟩ := bind_eq_ok.1 h
  split at h
  · obtain ⟨comma, -, h⟩ := bind_eq_ok.1 h
    obtain ⟨more, helements, heq⟩ := bind_eq_ok.1 h
    rw [← Except.ok.inj heq]
    exact List.forall_mem_cons.2 ⟨hvalue first hfirst,
      hmore comma.rest (Nat.lt_trans comma.shorter first.shorter) more helements⟩
  · obtain ⟨stop, -, heq⟩ := bind_eq_ok.1 h
    rw [← Except.ok.inj heq]
    exact List.forall_mem_singleton.2 (hvalue first hfirst)

/-- The values of an object fit, if values and objects in shorter texts do. -/
theorem fits_of_members {r : Reading (List (List Nat × Value)) s.length}
    (h : members nesting s = .ok r)
    (hvalue : ∀ cs, cs.length < s.length → ∀ r, value nesting cs = .ok r → Fits nesting r.value)
    (hmore : ∀ cs, cs.length < s.length → ∀ r, members nesting cs = .ok r →
      ∀ e ∈ r.value, Fits nesting e.2) :
    ∀ e ∈ r.value, Fits nesting e.2 := by
  rw [members] at h
  obtain ⟨quote, -, h⟩ := bind_eq_ok.1 h
  split at h
  · cases h
  · next us rest hunits =>
    obtain ⟨colon, -, h⟩ := bind_eq_ok.1 h
    obtain ⟨v, hv, h⟩ := bind_eq_ok.1 h
    have hcolon : colon.rest.length < s.length :=
      Nat.lt_trans colon.shorter (Nat.lt_trans (length_of_units? hunits) quote.shorter)
    have hentry := hvalue colon.rest hcolon v hv
    split at h
    · obtain ⟨comma, -, h⟩ := bind_eq_ok.1 h
      obtain ⟨more, hmembers, heq⟩ := bind_eq_ok.1 h
      rw [← Except.ok.inj heq]
      refine List.forall_mem_cons.2 ⟨hentry, hmore comma.rest ?_ more hmembers⟩
      exact Nat.lt_trans comma.shorter (Nat.lt_trans v.shorter hcolon)
    · obtain ⟨stop, -, heq⟩ := bind_eq_ok.1 h
      rw [← Except.ok.inj heq]
      exact List.forall_mem_singleton.2 hentry

/-- By induction on the length: whatever is read inside of a text is read from a shorter one. -/
theorem fits_of_length (s : List Char) (nesting : Nat) :
    (∀ r, value nesting s = .ok r → Fits nesting r.value) ∧
    (∀ r, elements nesting s = .ok r → ∀ v ∈ r.value, Fits nesting v) ∧
    ∀ r, members nesting s = .ok r → ∀ e ∈ r.value, Fits nesting e.2 := by
  have hvalues : ∀ cs, cs.length < s.length →
      ∀ r, value nesting cs = .ok r → Fits nesting r.value :=
    fun cs h => (fits_of_length cs nesting).1
  have hlists : ∀ inner cs, cs.length < s.length →
      ∀ r, elements inner cs = .ok r → ∀ v ∈ r.value, Fits inner v :=
    fun inner cs h => (fits_of_length cs inner).2.1
  have hobjects : ∀ inner cs, cs.length < s.length →
      ∀ r, members inner cs = .ok r → ∀ e ∈ r.value, Fits inner e.2 :=
    fun inner cs h => (fits_of_length cs inner).2.2
  have hvalue : ∀ r, value nesting s = .ok r → Fits nesting r.value :=
    fun r h => fits_of_value h hlists hobjects
  exact ⟨hvalue, fun r h => fits_of_elements h hvalue (hlists nesting),
    fun r h => fits_of_members h hvalues (hobjects nesting)⟩
termination_by s.length

/-- **A value that is read fits**: its whole numbers can be written again, and no more lists and
objects stand inside one another than there is room for. -/
theorem fits_of_read (h : read nesting s = .ok v) : Fits nesting v := by
  obtain ⟨r, hr, h⟩ := bind_eq_ok.1 h
  split at h
  · rw [← Except.ok.inj h]
    exact (fits_of_length s nesting).1 r hr
  · cases h

end Json

end TaskQuery
