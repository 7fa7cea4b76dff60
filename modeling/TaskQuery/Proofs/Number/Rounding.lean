import Mathlib.Data.Nat.Dist
import Mathlib.Tactic.Linarith
import TaskQuery.Number.Binary64

/-!
# Rounding whole numbers to the format

A whole number that is too long for a significand is rounded to the nearest number that is not.

* `IsWhole`: the whole numbers with a significand of 53 bits, whatever their size.
* `IsNearest`: the one nearest to a number, a tie going to the even significand;
  `IsNearest.unique` says that there is only one.
* `rounded`, `isNearest_rounded`: what rounding the quotient by the last place gives is the nearest.
* `magnitude?_ofDecimal`: this is what the digits of a whole number are read as, as long as it lies
  in the range of the format.
-/

namespace TaskQuery

/-! ## Rounding a quotient -/

/-- The multiple of the denominator next to the numerator is at most half a denominator away, and
just half of it only where the quotient is even. -/
theorem roundQuotient_spec {n d : ℕ} (hd : 0 < d) :
    2 * Nat.dist n (roundQuotient n d * d) ≤ d ∧
      (2 * Nat.dist n (roundQuotient n d * d) = d → roundQuotient n d % 2 = 0) := by
  have hrest := Nat.mod_lt n hd
  have hdiv := Nat.div_add_mod' n d
  rw [roundQuotient]
  split
  · next hup =>
    rw [Nat.add_mul, Nat.one_mul]
    simp only [Bool.or_eq_true, decide_eq_true_eq, Bool.and_eq_true, beq_iff_eq] at hup
    unfold Nat.dist
    omega
  · next hdown =>
    simp only [Bool.or_eq_true, decide_eq_true_eq, Bool.and_eq_true, beq_iff_eq] at hdown
    unfold Nat.dist
    omega

/-- A rounded quotient is the whole quotient or one more. -/
theorem div_le_roundQuotient (n d : ℕ) :
    n / d ≤ roundQuotient n d ∧ roundQuotient n d ≤ n / d + 1 := by
  rw [roundQuotient]
  split <;> omega

/-- A whole number is rounded to itself. -/
theorem roundQuotient_one (n : ℕ) : roundQuotient n 1 = n := by
  simp [roundQuotient, Nat.mod_one]

namespace Binary64

variable {n r t d e : ℕ} {negative : Bool}

/-! ## The nearest number -/

/-- A whole number with a significand below 2^53 and any power of two. -/
def IsWhole (t : ℕ) : Prop := ∃ m e : ℕ, m < 2 ^ 53 ∧ t = m * 2 ^ e

/-- `r` is the number of the format that is nearest to `n`, were there no bound on the exponent. -/
structure IsNearest (n r : ℕ) : Prop where
  /-- It has a significand of the format. -/
  isWhole : IsWhole r
  /-- No other such number is nearer. -/
  dist_le : ∀ t, IsWhole t → Nat.dist n r ≤ Nat.dist n t
  /-- Where another one is as near, the significand is even: it is an even number of times the
  distance between the two. -/
  even : ∀ t, IsWhole t → t ≠ r → Nat.dist n t = Nat.dist n r → 2 * Nat.dist t r ∣ r

/-- There is only one nearest number. -/
theorem IsNearest.unique {r' : ℕ} (h : IsNearest n r) (h' : IsNearest n r') : r = r' := by
  have hdist := Nat.le_antisymm (h.dist_le r' h'.isWhole) (h'.dist_le r h.isWhole)
  by_contra hne
  -- both would be even multiples of their distance
  have hr := h.even r' h'.isWhole (Ne.symm hne) hdist.symm
  have hr' := h'.even r h.isWhole hne hdist
  rw [Nat.dist_comm] at hr
  obtain ⟨i, hi⟩ := hr
  obtain ⟨j, hj⟩ := hr'
  have hpos := Nat.dist_pos_of_ne hne
  have hmul : Nat.dist r r' * 1 = Nat.dist r r' * (2 * Nat.dist i j) := by
    have happart := Nat.dist_mul_left (2 * Nat.dist r r') i j
    rw [← hi, ← hj] at happart
    rw [Nat.mul_one, ← Nat.mul_assoc, Nat.mul_comm (Nat.dist r r') 2]
    exact happart
  have hone := Nat.eq_of_mul_eq_mul_left hpos hmul
  omega

/-- A number that needs no rounding is the nearest to itself, and the only such number is. -/
theorem IsNearest.eq_iff (h : IsNearest n r) : r = n ↔ IsWhole n := by
  constructor
  · rintro rfl
    exact h.isWhole
  · intro hn
    have hdist := h.dist_le n hn
    rw [Nat.dist_self, Nat.le_zero] at hdist
    exact (Nat.eq_of_dist_eq_zero hdist).symm

/-- Whole numbers up to 2^53 are values. -/
theorem isWhole_of_le (h : n ≤ 2 ^ 53) : IsWhole n := by
  rcases h.lt_or_eq with h | rfl
  · exact ⟨n, 0, h, by simp⟩
  · exact ⟨1, 53, by norm_num, by norm_num⟩

/-- From a power of two on, the numbers of the format lie that far apart. -/
theorem IsWhole.dvd (h : IsWhole t) (ht : 2 ^ (52 + e) ≤ t) : 2 ^ e ∣ t := by
  obtain ⟨m, k, hm, rfl⟩ := h
  have hk : e ≤ k := by
    by_contra hlt
    have hpow : 2 ^ (k + 1) ≤ 2 ^ e := Nat.pow_le_pow_right (by norm_num) (by omega)
    have hle : m * 2 ^ k < 2 ^ 53 * 2 ^ k := Nat.mul_lt_mul_of_pos_right hm (by positivity)
    rw [Nat.pow_add] at ht
    rw [Nat.pow_succ] at hpow
    omega
  exact Dvd.dvd.mul_left (Nat.pow_dvd_pow 2 hk) m

/-! ## Rounding by the last place -/

/-- A whole number with its significand cut to 53 bits. -/
def rounded (n : ℕ) : ℕ :=
  if n < 2 ^ 53 then n else roundQuotient n (2 ^ (n.log2 - 52)) * 2 ^ (n.log2 - 52)

/-- A value is the nearest one to itself. -/
theorem isNearest_self (h : IsWhole n) : IsNearest n n where
  isWhole := h
  dist_le t _ := by
    rw [Nat.dist_self]
    exact Nat.zero_le _
  even t _ hne heq := by
    rw [Nat.dist_self] at heq
    exact absurd (Nat.eq_of_dist_eq_zero heq).symm hne

/-- Of the multiples of a number, none is nearer than one that is at most half of it away. -/
theorem dist_le_of_multiple {q : ℕ} (h : 2 * Nat.dist n (q * d) ≤ d) (k : ℕ) :
    Nat.dist n (q * d) ≤ Nat.dist n (k * d) ∧
      (k ≠ q → Nat.dist n (k * d) = Nat.dist n (q * d) →
        2 * Nat.dist n (q * d) = d ∧ Nat.dist (k * d) (q * d) = d) := by
  by_cases hk : k = q
  · subst hk
    exact ⟨Nat.le_refl _, fun hne => absurd rfl hne⟩
  · have hapart : d ≤ Nat.dist (k * d) (q * d) := by
      rw [Nat.dist_mul_right]
      exact Nat.le_mul_of_pos_left d (Nat.dist_pos_of_ne hk)
    have htriangle := Nat.dist.triangle_inequality (k * d) n (q * d)
    rw [Nat.dist_comm (k * d) n] at htriangle
    exact ⟨by omega, fun _ heq => by omega⟩

/-- The significand of a long number lies between 2^52 and 2^53. -/
theorem significand_bounds (h : 2 ^ (52 + e) ≤ n) (h' : n < 2 ^ (53 + e)) :
    2 ^ 52 ≤ roundQuotient n (2 ^ e) ∧ roundQuotient n (2 ^ e) ≤ 2 ^ 53 := by
  obtain ⟨hlow, hhigh⟩ := div_le_roundQuotient n (2 ^ e)
  have hpos : 0 < 2 ^ e := by positivity
  rw [Nat.pow_add] at h h'
  have hfloor : 2 ^ 52 ≤ n / 2 ^ e := (Nat.le_div_iff_mul_le hpos).2 h
  have hceil : n / 2 ^ e < 2 ^ 53 := (Nat.div_lt_iff_lt_mul hpos).2 h'
  omega

/-- Rounding a long number by its last place gives the nearest number of the format. -/
theorem isNearest_roundQuotient (h : 2 ^ (52 + e) ≤ n) (h' : n < 2 ^ (53 + e)) :
    IsNearest n (roundQuotient n (2 ^ e) * 2 ^ e) := by
  obtain ⟨hhalf, heven⟩ := roundQuotient_spec (n := n) (d := 2 ^ e) (by positivity)
  obtain ⟨-, hhigh⟩ := significand_bounds h h'
  -- what is shorter than `n` is farther away than the power of two below `n`
  have hshort : ∀ t, t < 2 ^ (52 + e) →
      Nat.dist n (roundQuotient n (2 ^ e) * 2 ^ e) < Nat.dist n t := by
    intro t ht
    have hpower := (dist_le_of_multiple hhalf (2 ^ 52)).1
    rw [← Nat.pow_add] at hpower
    refine hpower.trans_lt ?_
    rw [Nat.dist_eq_sub_of_le_right h, Nat.dist_eq_sub_of_le_right (ht.le.trans h)]
    omega
  refine ⟨?_, fun t ht => ?_, fun t ht hne heq => ?_⟩
  · rcases hhigh.lt_or_eq with hlt | heq
    · exact ⟨_, e, hlt, rfl⟩
    · exact ⟨1, 53 + e, by norm_num, by rw [heq, Nat.one_mul, Nat.pow_add]⟩
  · rcases lt_or_ge t (2 ^ (52 + e)) with hlt | hge
    · exact (hshort t hlt).le
    · obtain ⟨k, rfl⟩ := ht.dvd hge
      rw [Nat.mul_comm (2 ^ e) k]
      exact (dist_le_of_multiple hhalf k).1
  · rcases lt_or_ge t (2 ^ (52 + e)) with hlt | hge
    · exact absurd heq (hshort t hlt).ne'
    · obtain ⟨k, rfl⟩ := ht.dvd hge
      rw [Nat.mul_comm (2 ^ e) k] at hne heq ⊢
      have hk : k ≠ roundQuotient n (2 ^ e) := fun hk => hne (by rw [hk])
      obtain ⟨htie, hplace⟩ := (dist_le_of_multiple hhalf k).2 hk heq
      rw [hplace]
      exact Nat.mul_dvd_mul_right (Nat.dvd_of_mod_eq_zero (heven htie)) (2 ^ e)

/-- The shift that leaves 53 bits of a number, by its logarithm. -/
theorem log2_bounds (h : 2 ^ 53 ≤ n) : 53 ≤ n.log2 ∧ 2 ^ (52 + (n.log2 - 52)) ≤ n ∧
    n < 2 ^ (53 + (n.log2 - 52)) := by
  have hne : n ≠ 0 := by
    rintro rfl
    norm_num at h
  have hlog : 53 ≤ n.log2 := (Nat.le_log2 hne).2 h
  refine ⟨hlog, ?_, ?_⟩
  · rw [show 52 + (n.log2 - 52) = n.log2 by omega]
    exact Nat.log2_self_le hne
  · rw [show 53 + (n.log2 - 52) = n.log2 + 1 by omega]
    exact Nat.lt_log2_self

/-- **Cutting the significand gives the nearest number.** -/
theorem isNearest_rounded (n : ℕ) : IsNearest n (rounded n) := by
  rw [rounded]
  split
  · next h => exact isNearest_self (isWhole_of_le h.le)
  · next h =>
    obtain ⟨-, hlow, hhigh⟩ := log2_bounds (Nat.le_of_not_lt h)
    exact isNearest_roundQuotient hlow hhigh

/-- The first number that is too long is 2^53 + 1, and the even significand lies below it. -/
theorem rounded_two_pow_53_succ : rounded 9007199254740993 = 9007199254740992 := by
  decide +kernel

/-- Rounding does not go beyond a number that needs none. -/
theorem le_rounded (h : IsWhole t) (ht : t ≤ n) : t ≤ rounded n := by
  have hdist := (isNearest_rounded n).dist_le t h
  unfold Nat.dist at hdist
  omega

/-! ## What is read -/

/-- The place of a rounded whole number in the order: from 2^1024 on it is infinite. -/
def Magnitude.ofRounded (negative : Bool) (r : ℕ) : Magnitude :=
  if r < 2 ^ 1024 then wholeMagnitude (if negative then -r else r)
  else if negative then .bottom else .top

/-- Numbers with the same value have the same magnitude. -/
theorem magnitude?_finite {m : ℕ} {e : ℤ}
    (h : m * 2 ^ (e - minExponent).toNat = r * 2 ^ (-minExponent).toNat) :
    (finite negative m e).magnitude? = some (wholeMagnitude (if negative then -r else r)) := by
  have hcast : ((m <<< (e - minExponent).toNat : ℕ) : ℤ) =
      (r : ℤ) * ((1 <<< (-minExponent).toNat : ℕ) : ℤ) := by
    rw [Nat.shiftLeft_eq, Nat.shiftLeft_eq, Nat.one_mul, h, Nat.cast_mul]
  rw [magnitude?, wholeMagnitude]
  simp only [hcast]
  cases negative <;> simp

/-- A whole number has its first digit at its binary logarithm. -/
theorem exponentOf_one (hn : n ≠ 0) : exponentOf n 1 = (n.log2 : ℤ) - 52 := by
  have hlow : 2 ^ n.log2 ≤ n := Nat.log2_self_le hn
  have hlong : (if (n.log2 : ℤ) - 52 < 0 then n <<< ((n.log2 : ℤ) - 52).natAbs ≥ 1 <<< 52
      else n ≥ 1 <<< (52 + ((n.log2 : ℤ) - 52).natAbs)) := by
    simp only [Nat.shiftLeft_eq, Nat.one_mul]
    split
    · next hneg =>
      rw [show 2 ^ 52 = 2 ^ n.log2 * 2 ^ ((n.log2 : ℤ) - 52).natAbs by
        rw [← Nat.pow_add]
        congr 1
        omega]
      exact Nat.mul_le_mul_right _ hlow
    · next hpos => rwa [show 52 + ((n.log2 : ℤ) - 52).natAbs = n.log2 by omega]
  have hone : ((Nat.log2 1 : ℕ) : ℤ) = 0 := by decide
  simp only [exponentOf, hone, sub_zero, hlong, if_true, minExponent]
  omega

/-- A significand that is rounded up to 2^53 is halved. -/
theorem ofRatio_one (hn : n ≠ 0) {m : ℕ} (hm : scaledSignificand n 1 ((n.log2 : ℤ) - 52) = m) :
    ofRatio negative n 1 =
      if m = 2 ^ 53 then
        if (n.log2 : ℤ) - 52 + 1 > maxExponent then infinite negative
        else finite negative (2 ^ 52) ((n.log2 : ℤ) - 52 + 1)
      else if (n.log2 : ℤ) - 52 > maxExponent then infinite negative
      else finite negative m ((n.log2 : ℤ) - 52) := by
  rw [ofRatio, if_neg hn]
  simp only [exponentOf_one hn, hm, Nat.shiftLeft_eq, Nat.one_mul]
  by_cases h : m = 2 ^ 53
  · simp only [h, if_true]
  · simp only [h, if_false]

/-- A number with less than 53 digits is read as it is. -/
theorem magnitude?_of_short (hn : n ≠ 0) (h : n < 2 ^ 53) :
    (ofRatio negative n 1).magnitude? = some (wholeMagnitude (if negative then -n else n)) := by
  have hlog : n.log2 ≤ 52 := Nat.lt_succ_iff.1 ((Nat.log2_lt hn).2 h)
  have hm : scaledSignificand n 1 ((n.log2 : ℤ) - 52) = n * 2 ^ (52 - n.log2) := by
    rw [scaledSignificand]
    split
    · rw [roundQuotient_one, Nat.shiftLeft_eq]
      congr 2
      omega
    · rw [show ((n.log2 : ℤ) - 52).natAbs = 0 by omega, show 52 - n.log2 = 0 by omega,
        Nat.shiftLeft_zero, roundQuotient_one, Nat.pow_zero, Nat.mul_one]
  have hlt : n * 2 ^ (52 - n.log2) < 2 ^ 53 := by
    calc n * 2 ^ (52 - n.log2) < 2 ^ (n.log2 + 1) * 2 ^ (52 - n.log2) :=
          Nat.mul_lt_mul_of_pos_right Nat.lt_log2_self (by positivity)
      _ = 2 ^ 53 := by
          rw [← Nat.pow_add]
          congr 1
          omega
  rw [ofRatio_one hn hm, if_neg hlt.ne, if_neg (by rw [maxExponent]; omega)]
  refine magnitude?_finite ?_
  rw [Nat.mul_assoc, ← Nat.pow_add]
  congr 2
  rw [minExponent]
  omega

/-- A full significand says how long a number is. -/
theorem lt_two_pow_iff {m k p : ℕ} (hlow : 2 ^ 52 ≤ m) (hhigh : m < 2 ^ 53) :
    m * 2 ^ k < 2 ^ p ↔ 53 + k ≤ p := by
  constructor
  · intro h
    by_contra hlt
    refine absurd h (Nat.not_lt.2 ?_)
    calc 2 ^ p ≤ 2 ^ (52 + k) := Nat.pow_le_pow_right (by norm_num) (by omega)
      _ = 2 ^ 52 * 2 ^ k := Nat.pow_add 2 52 k
      _ ≤ m * 2 ^ k := Nat.mul_le_mul_right _ hlow
  · intro h
    calc m * 2 ^ k < 2 ^ 53 * 2 ^ k := Nat.mul_lt_mul_of_pos_right hhigh (by positivity)
      _ = 2 ^ (53 + k) := (Nat.pow_add 2 53 k).symm
      _ ≤ 2 ^ p := Nat.pow_le_pow_right (by norm_num) h

/-- A full significand is in the range of the format up to its greatest exponent. -/
theorem magnitude?_of_significand {m : ℕ} (hlow : 2 ^ 52 ≤ m) (hhigh : m < 2 ^ 53) (k : ℕ) :
    (if (k : ℤ) > maxExponent then infinite negative
      else finite negative m k).magnitude? = some (.ofRounded negative (m * 2 ^ k)) := by
  have hrange : (k : ℤ) > maxExponent ↔ ¬m * 2 ^ k < 2 ^ 1024 := by
    rw [lt_two_pow_iff hlow hhigh, maxExponent]
    omega
  rw [Magnitude.ofRounded]
  by_cases h : m * 2 ^ k < 2 ^ 1024
  · rw [if_neg (by rwa [hrange, not_not]), if_pos h]
    refine magnitude?_finite ?_
    rw [Nat.mul_assoc, ← Nat.pow_add]
    rfl
  · rw [if_pos (hrange.2 h), if_neg h]
    cases negative <;> rfl

/-- A longer number is read as the rounded one, or as an infinity. -/
theorem magnitude?_of_long (h : 2 ^ 53 ≤ n) :
    (ofRatio negative n 1).magnitude? = some (.ofRounded negative (rounded n)) := by
  obtain ⟨hlog, hlow, hhigh⟩ := log2_bounds h
  obtain ⟨hmin, hmax⟩ := significand_bounds hlow hhigh
  have hn : n ≠ 0 := by
    rintro rfl
    norm_num at h
  have hexponent : (n.log2 : ℤ) - 52 = ((n.log2 - 52 : ℕ) : ℤ) := by omega
  have hm : scaledSignificand n 1 ((n.log2 : ℤ) - 52) =
      roundQuotient n (2 ^ (n.log2 - 52)) := by
    rw [hexponent, scaledSignificand, if_neg (by omega), Int.natAbs_natCast, Nat.shiftLeft_eq,
      Nat.one_mul]
  rw [ofRatio_one hn hm, rounded, if_neg (Nat.not_lt.2 h), hexponent]
  split
  · next hfull =>
    rw [hfull, show 2 ^ 53 * 2 ^ (n.log2 - 52) = 2 ^ 52 * 2 ^ (n.log2 - 52 + 1) by
      rw [← Nat.pow_add, ← Nat.pow_add]
      congr 1
      omega]
    exact magnitude?_of_significand (Nat.le_refl _) (by norm_num) (n.log2 - 52 + 1)
  · next hfull => exact magnitude?_of_significand hmin (hmax.lt_of_ne hfull) (n.log2 - 52)

/-- Ten to a power has more than three bits for each digit. -/
theorem two_pow_le_ten_pow {p k : ℕ} (h : p ≤ 3 * k) : 2 ^ p ≤ 10 ^ k := by
  calc 2 ^ p ≤ 2 ^ (3 * k) := Nat.pow_le_pow_right (by norm_num) h
    _ = (2 ^ 3) ^ k := Nat.pow_mul 2 3 k
    _ ≤ 10 ^ k := Nat.pow_le_pow_left (by norm_num) k

/-- **The decimal digits of a whole number are read as the nearest number of the format.** -/
theorem magnitude?_ofDecimal (negative : Bool) (n : ℕ) :
    (ofDecimal negative n 0).magnitude? = some (.ofRounded negative (rounded n)) := by
  by_cases hn : n = 0
  · have hzero : (ofDecimal negative n 0).magnitude? =
        some (wholeMagnitude (if negative then -(0 : ℕ) else (0 : ℕ))) := by
      rw [hn, ofDecimal, if_pos rfl]
      exact magnitude?_finite (by simp)
    have hrounded : rounded 0 = 0 := if_pos (by norm_num)
    have hrange : ∀ p, 0 < 2 ^ p := Nat.two_pow_pos
    rw [hzero, hn, hrounded, Magnitude.ofRounded, if_pos (hrange 1024)]
  by_cases hlarge : (0 : ℤ) + (Nat.toDigits 10 n).length > 400
  · -- so many digits are out of range
    have hdigits : 10 ^ 400 ≤ n := by
      have hlength : ¬(Nat.toDigits 10 n).length ≤ 400 := by omega
      rwa [Nat.length_toDigits_le_iff (by decide) (by decide), Nat.not_lt] at hlength
    have hwhole : IsWhole (2 ^ 1024) := ⟨1, 1024, by norm_num, (Nat.one_mul _).symm⟩
    have hrounded := le_rounded hwhole ((two_pow_le_ten_pow (by norm_num)).trans hdigits)
    rw [ofDecimal, if_neg hn, if_pos hlarge, Magnitude.ofRounded, if_neg (Nat.not_lt.2 hrounded)]
    cases negative <;> rfl
  have hread : ofDecimal negative n 0 = ofRatio negative n 1 := by
    simp only [ofDecimal, hn, if_false, hlarge]
    rw [if_neg (by omega), if_neg (by decide)]
    simp
  rw [hread]
  rcases Nat.lt_or_ge n (2 ^ 53) with h | h
  · have hrange : ∀ p, 53 ≤ p → n < 2 ^ p := fun p hp =>
      h.trans_le (Nat.pow_le_pow_right (by norm_num) hp)
    rw [magnitude?_of_short hn h, rounded, if_pos h, Magnitude.ofRounded,
      if_pos (hrange 1024 (by norm_num))]
  · exact magnitude?_of_long h

end Binary64

end TaskQuery
