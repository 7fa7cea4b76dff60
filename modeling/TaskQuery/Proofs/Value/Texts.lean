import TaskQuery.Result
import TaskQuery.Value.Printer

/-!
# Which values have a text

A value is written with all that stands inside of it.  What can go wrong is the same everywhere: a
whole number that is too long, or a value that stands too deep.

* `StandsIn`: where a value stands inside another one.
* `exists_toText_iff`: a value has a text exactly if nothing of the kind stands inside of it.
* `Fits`: what can be said of a value that was read under a bound on its nesting.
* `exists_toText_of_fits`: such a value has a text under the same bound.
-/

namespace TaskQuery.Value

/-! ## Where values stand -/

/-- `StandsIn w k v`: the value `w` stands inside of `v`, with `k` lists and objects around it. -/
inductive StandsIn : Value → Nat → Value → Prop where
  /-- A value stands in itself. -/
  | self (v : Value) : StandsIn v 0 v
  /-- What stands in an element stands in the list. -/
  | list {w v : Value} {k : Nat} {vs : List Value} (hv : v ∈ vs) (h : StandsIn w k v) :
    StandsIn w (k + 1) (.list vs)
  /-- What stands in an entry stands in the object. -/
  | object {w : Value} {k : Nat} {entries : Entries} {e : String × Value} (he : e ∈ entries)
      (h : StandsIn w k e.2) : StandsIn w (k + 1) (.object entries)

variable {v : Value} {vs : List Value} {entries : Entries} {n : Nat}

/-- In a list stand the list and what stands in its elements. -/
theorem forall_standsIn_list {p : Value → Nat → Prop} :
    (∀ w k, StandsIn w k (.list vs) → p w k) ↔
      p (.list vs) 0 ∧ ∀ v ∈ vs, ∀ w k, StandsIn w k v → p w (k + 1) := by
  constructor
  · intro h
    exact ⟨h _ _ (.self _), fun v hv w k hw => h w (k + 1) (.list hv hw)⟩
  · rintro ⟨hself, hinner⟩ w k hw
    cases hw with
    | self => exact hself
    | list hv hw => exact hinner _ hv w _ hw

/-- In an object stand the object and what stands in its entries. -/
theorem forall_standsIn_object {p : Value → Nat → Prop} :
    (∀ w k, StandsIn w k (.object entries) → p w k) ↔
      p (.object entries) 0 ∧ ∀ e ∈ entries, ∀ w k, StandsIn w k e.2 → p w (k + 1) := by
  constructor
  · intro h
    exact ⟨h _ _ (.self _), fun e he w k hw => h w (k + 1) (.object he hw)⟩
  · rintro ⟨hself, hinner⟩ w k hw
    cases hw with
    | self => exact hself
    | object he hw => exact hinner _ he w _ hw

/-- In any other value stands nothing else. -/
theorem forall_standsIn_other {p : Value → Nat → Prop} (hlist : ∀ vs, v ≠ .list vs)
    (hobject : ∀ entries, v ≠ .object entries) : (∀ w k, StandsIn w k v → p w k) ↔ p v 0 := by
  constructor
  · intro h
    exact h v 0 (.self v)
  · intro h w k hw
    cases hw with
    | self => exact h
    | list => exact absurd rfl (hlist _)
    | object => exact absurd rfl (hobject _)

/-! ## Values with a text -/

/-- A value with fewer than `n` lists and objects around it that is no number too long to write. -/
def IsPlaced (n : Nat) (w : Value) (k : Nat) : Prop :=
  k < n ∧ ∀ i, w = .int i → Text.isWritable i = true

/-- A list is written when all its elements are. -/
theorem exists_quotedList_iff :
    (∃ ts, quotedList n vs = .ok ts) ↔ ∀ v ∈ vs, ∃ t, quoted n v = .ok t := by
  induction vs with
  | nil => simp [quotedList]
  | cons v vs ih =>
    rw [List.forall_mem_cons, ← ih]
    constructor
    · rintro ⟨ts, h⟩
      obtain ⟨t, ht, h⟩ := bind_eq_ok.1 h
      obtain ⟨ts', hts, -⟩ := bind_eq_ok.1 h
      exact ⟨⟨t, ht⟩, ts', hts⟩
    · rintro ⟨⟨t, ht⟩, ts, hts⟩
      exact ⟨t :: ts, by rw [quotedList, ht, hts]; rfl⟩

/-- An object is written when all its entries are. -/
theorem exists_quotedEntries_iff :
    (∃ ts, quotedEntries n entries = .ok ts) ↔ ∀ e ∈ entries, ∃ t, quoted n e.2 = .ok t := by
  induction entries with
  | nil => simp [quotedEntries]
  | cons e entries ih =>
    rw [List.forall_mem_cons, ← ih]
    constructor
    · rintro ⟨ts, h⟩
      obtain ⟨t, ht, h⟩ := bind_eq_ok.1 h
      obtain ⟨ts', hts, -⟩ := bind_eq_ok.1 h
      exact ⟨⟨t, ht⟩, ts', hts⟩
    · rintro ⟨⟨t, ht⟩, ts, hts⟩
      exact ⟨_ :: ts, by rw [quotedEntries, ht, hts]; rfl⟩

/-- A value is written in quotes exactly if all that stands in it has its place.  By induction on
the levels that are left. -/
theorem exists_quoted_iff :
    (∃ t, quoted n v = .ok t) ↔ ∀ w k, StandsIn w k v → IsPlaced n w k := by
  induction n generalizing v with
  | zero =>
    have hnone : ¬∃ t, quoted 0 v = .ok t := by
      rintro ⟨t, h⟩
      rw [quoted] at h
      cases h
    exact iff_of_false hnone fun h => Nat.not_lt_zero 0 (h v 0 (.self v)).1
  | succ n ih =>
    have hinner (v : Value) : (∀ w k, StandsIn w k v → IsPlaced (n + 1) w (k + 1)) ↔
        ∃ t, quoted n v = .ok t := by
      rw [ih]
      simp only [IsPlaced, Nat.add_lt_add_iff_right]
    have hself (h : ∀ i, v ≠ .int i) : IsPlaced (n + 1) v 0 :=
      ⟨Nat.succ_pos n, fun i hi => absurd hi (h i)⟩
    cases v with
    | list vs =>
      rw [forall_standsIn_list, and_iff_right (hself (by simp)),
        forall₂_congr fun v _ => hinner v, ← exists_quotedList_iff, quoted]
      exact exists_bind_ok_iff
    | object entries =>
      rw [forall_standsIn_object, and_iff_right (hself (by simp)),
        forall₂_congr fun (e : String × Value) _ => hinner e.2, ← exists_quotedEntries_iff, quoted]
      exact exists_bind_ok_iff
    | int i =>
      rw [forall_standsIn_other (by simp) (by simp), quoted]
      cases hi : Text.isWritable i <;> simp [IsPlaced, hi]
    | _ =>
      rw [forall_standsIn_other (by simp) (by simp), quoted]
      exact iff_of_true ⟨_, rfl⟩ (hself (by simp))

/-- **A value has a text exactly if** no whole number in it is too long to write and nothing in it
stands deeper than `n`. -/
theorem exists_toText_iff :
    (∃ t, v.toText n = .ok t) ↔ ∀ w k, StandsIn w k v → IsPlaced (n + 1) w k := by
  have hself (h : ∀ i, v ≠ .int i) : IsPlaced (n + 1) v 0 :=
    ⟨Nat.succ_pos n, fun i hi => absurd hi (h i)⟩
  cases v with
  | text s | stamp s | time s =>
    rw [forall_standsIn_other (by simp) (by simp), toText]
    exact iff_of_true ⟨_, rfl⟩ (hself (by simp))
  | _ => exact exists_quoted_iff

/-! ## Values that fit -/

/-- A value in which no whole number is too long and at most `n` lists and objects stand inside one
another. -/
inductive Fits : Nat → Value → Prop where
  /-- A whole number that is not too long. -/
  | int {n : Nat} {i : Int} (h : Text.isWritable i = true) : Fits n (.int i)
  /-- A list takes one level. -/
  | list {n : Nat} {vs : List Value} (h : ∀ v ∈ vs, Fits n v) : Fits (n + 1) (.list vs)
  /-- An object takes one level. -/
  | object {n : Nat} {entries : Entries} (h : ∀ e ∈ entries, Fits n e.2) :
    Fits (n + 1) (.object entries)
  /-- Any other value. -/
  | other {n : Nat} {v : Value} (hint : ∀ i, v ≠ .int i) (hlist : ∀ vs, v ≠ .list vs)
      (hobject : ∀ entries, v ≠ .object entries) : Fits n v

/-- What fits a place fits one with more room. -/
theorem Fits.mono (h : Fits n v) {m : Nat} (hm : n ≤ m) : Fits m v := by
  induction h generalizing m with
  | int h => exact .int h
  | other hint hlist hobject => exact .other hint hlist hobject
  | list _ ih =>
    obtain ⟨m, rfl⟩ := Nat.exists_eq_add_of_le' (Nat.le_trans (Nat.le_add_left 1 _) hm)
    exact .list fun v hv => ih v hv (Nat.le_of_succ_le_succ hm)
  | object _ ih =>
    obtain ⟨m, rfl⟩ := Nat.exists_eq_add_of_le' (Nat.le_trans (Nat.le_add_left 1 _) hm)
    exact .object fun e he => ih e he (Nat.le_of_succ_le_succ hm)

/-- In a value that fits, all that stands in it has its place. -/
theorem isPlaced_of_fits (h : Fits n v) : ∀ w k, StandsIn w k v → IsPlaced (n + 1) w k := by
  induction h with
  | @int n i h =>
    refine (forall_standsIn_other (by simp) (by simp)).2 ⟨Nat.succ_pos n, fun j hj => ?_⟩
    rwa [← Value.int.inj hj]
  | @other n v hint hlist hobject =>
    exact (forall_standsIn_other hlist hobject).2
      ⟨Nat.succ_pos n, fun i hi => absurd hi (hint i)⟩
  | @list n vs _ ih =>
    refine forall_standsIn_list.2 ⟨⟨Nat.succ_pos _, by simp⟩, fun v hv w k hw => ?_⟩
    exact ⟨Nat.succ_lt_succ (ih v hv w k hw).1, (ih v hv w k hw).2⟩
  | @object n entries _ ih =>
    refine forall_standsIn_object.2 ⟨⟨Nat.succ_pos _, by simp⟩, fun e he w k hw => ?_⟩
    exact ⟨Nat.succ_lt_succ (ih e he w k hw).1, (ih e he w k hw).2⟩

/-- A value that fits has a text. -/
theorem exists_toText_of_fits (h : Fits n v) : ∃ t, v.toText n = .ok t :=
  exists_toText_iff.2 (isPlaced_of_fits h)

end TaskQuery.Value
