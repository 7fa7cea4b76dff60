import TaskQuery.Value.Basic

/-!
# Entries by name

Entries are an object with its names in the order in which they came first, and a later value for a
name replaces an earlier one.  Nothing here depends on what names are, so that it holds for texts
and for lists of code points alike.

* `lookup_put`: giving a name a value changes what is found under that name and nothing else.
* `lookup_ofPairs`: of pairs with one name the last one counts.
* `nodup_ofPairs`, `ofPairs_of_nodup`: the names are distinct, and pairs with distinct names are
  entries as they stand.
* `exists_of_mem_ofPairs`: no other values come in.
-/

namespace TaskQuery.Entries

variable {κ : Type} [DecidableEq κ] {entries pairs : List (κ × Value)} {key : κ} {v : Value}

/-! ## One name -/

/-- The first entry with a name is found. -/
theorem lookup_cons (key : κ) (v : Value) (entries : List (κ × Value)) (k : κ) :
    ((key, v) :: entries).lookup k = if k = key then some v else entries.lookup k := by
  by_cases hk : k = key
  · rw [if_pos hk, hk, List.lookup_cons_self]
  · rw [if_neg hk, List.lookup_cons, beq_false_of_ne hk]

/-- A name that has a value is found with it, and all other names with what they had. -/
theorem lookup_put (entries : List (κ × Value)) (key : κ) (v : Value) (k : κ) :
    (put entries key v).lookup k = if k = key then some v else entries.lookup k := by
  induction entries with
  | nil => rw [put, lookup_cons]
  | cons e entries ih =>
    obtain ⟨name, w⟩ := e
    rw [put]
    by_cases hname : name = key
    · subst hname
      rw [if_pos rfl, lookup_cons, lookup_cons]
      split <;> rfl
    · rw [if_neg hname, lookup_cons, lookup_cons, ih]
      by_cases hk : k = name
      · rw [if_pos hk, if_pos hk, if_neg (hk ▸ hname)]
      · rw [if_neg hk, if_neg hk]

/-- The names stay as they are, with the new one at the end if it was not there. -/
theorem names_put (entries : List (κ × Value)) (key : κ) (v : Value) :
    (put entries key v).map Prod.fst =
      if key ∈ entries.map Prod.fst then entries.map Prod.fst else entries.map Prod.fst ++ [key] := by
  induction entries with
  | nil => rfl
  | cons e entries ih =>
    obtain ⟨name, w⟩ := e
    rw [put]
    by_cases hname : name = key
    · simp [hname]
    · rw [if_neg hname, List.map_cons, ih, List.map_cons]
      by_cases hkey : key ∈ entries.map Prod.fst
      · rw [if_pos hkey, if_pos (List.mem_cons_of_mem name hkey)]
      · rw [if_neg hkey, if_neg (by simp [Ne.symm hname, hkey])]
        rfl

/-- A name that is not there yet comes last. -/
theorem put_of_not_mem (h : key ∉ entries.map Prod.fst) (v : Value) :
    put entries key v = entries ++ [(key, v)] := by
  induction entries with
  | nil => rfl
  | cons e entries ih =>
    obtain ⟨name, w⟩ := e
    obtain ⟨hname, hentries⟩ := not_or.1 (mt List.mem_cons.2 h)
    rw [put, if_neg (Ne.symm hname), ih hentries]
    rfl

/-- An entry is one that was there, or it has the new value. -/
theorem mem_put {e : κ × Value} (h : e ∈ put entries key v) : e ∈ entries ∨ e.2 = v := by
  induction entries with
  | nil =>
    rw [List.mem_singleton.1 h]
    exact .inr rfl
  | cons first entries ih =>
    obtain ⟨name, w⟩ := first
    rw [put] at h
    split at h
    · rcases List.mem_cons.1 h with rfl | h
      · exact .inr rfl
      · exact .inl (List.mem_cons_of_mem _ h)
    · rcases List.mem_cons.1 h with rfl | h
      · exact .inl List.mem_cons_self
      · exact (ih h).imp (List.mem_cons_of_mem _) id

/-! ## Pairs one after another -/

/-- What holds of no entries, and goes on to hold with each pair that is put in, holds of the
entries of pairs. -/
theorem ofPairs_induction {P : List (κ × Value) → Prop} (nil : P [])
    (put : ∀ entries, ∀ p ∈ pairs, P entries → P (put entries p.1 p.2)) : P (ofPairs pairs) := by
  have hfold (front : List (κ × Value)) (hfront : P front) :
      P (pairs.foldl (fun entries p => Entries.put entries p.1 p.2) front) := by
    induction pairs generalizing front with
    | nil => exact hfront
    | cons p pairs ih =>
      exact ih (fun entries q hq => put entries q (List.mem_cons_of_mem p hq)) _
        (put front p List.mem_cons_self hfront)
  exact hfold [] nil

/-- **Of pairs with one name the last one counts.** -/
theorem lookup_ofPairs (pairs : List (κ × Value)) (key : κ) :
    (ofPairs pairs).lookup key = pairs.reverse.lookup key := by
  have hfold (front : List (κ × Value)) :
      (pairs.foldl (fun entries p => Entries.put entries p.1 p.2) front).lookup key =
        (pairs.reverse.lookup key).or (front.lookup key) := by
    induction pairs generalizing front with
    | nil => rfl
    | cons p pairs ih =>
      rw [List.foldl_cons, ih, lookup_put, List.reverse_cons, List.lookup_append, Option.or_assoc,
        lookup_cons]
      split <;> rfl
  rw [ofPairs, hfold, List.lookup_nil, Option.or_none]

/-- **The names of entries are distinct.** -/
theorem nodup_ofPairs (pairs : List (κ × Value)) : ((ofPairs pairs).map Prod.fst).Nodup := by
  refine ofPairs_induction (P := fun entries => (entries.map Prod.fst).Nodup) List.nodup_nil
    fun entries p _ h => ?_
  rw [names_put]
  split
  · exact h
  · next hp =>
    refine List.nodup_append.2 ⟨h, by simp, ?_⟩
    rintro name hname _ hkey rfl
    exact hp (List.mem_singleton.1 hkey ▸ hname)

/-- Every entry has its value from one of the pairs. -/
theorem exists_of_mem_ofPairs {e : κ × Value} (h : e ∈ ofPairs pairs) :
    ∃ p ∈ pairs, e.2 = p.2 := by
  refine ofPairs_induction (P := fun entries => ∀ e ∈ entries, ∃ p ∈ pairs, e.2 = p.2)
    (fun e he => absurd he List.not_mem_nil) (fun entries p hp hentries e he => ?_) e h
  rcases mem_put he with he | he
  · exact hentries e he
  · exact ⟨p, hp, he⟩

/-- Pairs with distinct names are kept as they are. -/
theorem ofPairs_of_nodup (h : (pairs.map Prod.fst).Nodup) : ofPairs pairs = pairs := by
  have hfold (front : List (κ × Value)) (hfront : ((front ++ pairs).map Prod.fst).Nodup) :
      pairs.foldl (fun entries p => Entries.put entries p.1 p.2) front = front ++ pairs := by
    clear h
    induction pairs generalizing front with
    | nil => simp
    | cons p pairs ih =>
      have hname : p.1 ∉ front.map Prod.fst := by
        rw [List.map_append, List.nodup_append] at hfront
        exact fun hmem => hfront.2.2 _ hmem _ List.mem_cons_self rfl
      rw [List.foldl_cons, put_of_not_mem hname, ih _ (by simpa using hfront), List.append_assoc]
      rfl
  exact hfold [] h

end TaskQuery.Entries
