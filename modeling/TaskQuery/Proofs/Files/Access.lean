import TaskQuery.Files.Access

/-!
# What a computation does to files

A computation is a tree of questions, and what holds whatever the answers are holds of a run on any
files.

* `Access.Ends`: every end of a computation has a property; `ends_run`: so has the result of a run.
* `Access.WritesOnce`: a computation writes once at most, at its end; `files_run`: a run leaves the
  files as they are, or puts one file in its place.
* `run_bind`: a run goes on where a run has ended.
* `lookup_put?`, `entryAt_put?`: putting a file changes nothing elsewhere, but for the folders above.
-/

namespace TaskQuery

namespace Access

variable {α β : Type}

/-! ## Ends -/

/-- Every end of a computation has the property. -/
def Ends (P : α → Prop) : Access α → Prop
  | done r => P r
  | look _ next => ∀ state, (next state).Ends P
  | write _ _ next => ∀ refusal, (next refusal).Ends P

/-- The end of a computation that goes on is an end of what it goes on with. -/
theorem Ends.bind {P : β → Prop} {Q : α → Prop} {a : Access α} {f : α → Access β}
    (ha : a.Ends Q) (hf : ∀ r, Q r → (f r).Ends P) : (a >>= f).Ends P := by
  induction a with
  | done r => exact hf r ha
  | look path next ih => exact fun state => ih state (ha state)
  | write path content next ih => exact fun refusal => ih refusal (ha refusal)

/-- Every computation has some ends. -/
theorem ends_true (a : Access α) : a.Ends fun _ => True := by
  induction a with
  | done r => trivial
  | look path next ih => exact ih
  | write path content next ih => exact ih

/-- **The result of a run has what every end has.** -/
theorem ends_run {P : α → Prop} {a : Access α} (h : a.Ends P) (t : FileTree) : P (a.run t).1 := by
  induction a generalizing t with
  | done r => exact h
  | look path next ih => exact ih _ (h _) t
  | write path content next ih =>
    rw [run]
    split
    · exact ih _ (h _) _
    · exact ih _ (h _) _

/-! ## Files that are written -/

/-- A computation writes once at most, something that has the property, and does no more but end. -/
def WritesOnce (P : PathName → String → Prop) : Access α → Prop
  | done _ => True
  | look _ next => ∀ state, (next state).WritesOnce P
  | write path content next => P path content ∧ ∀ refusal, ∃ r, next refusal = done r

/-- A computation writes nothing. -/
def IsReader (a : Access α) : Prop := a.WritesOnce fun _ _ => False

/-- A computation that goes on behind a reader writes what it goes on with. -/
theorem IsReader.bind {P : PathName → String → Prop} {a : Access α} {f : α → Access β}
    (ha : a.IsReader) (hf : ∀ r, (f r).WritesOnce P) : (a >>= f).WritesOnce P := by
  induction a with
  | done r => exact hf r
  | look path next ih => exact fun state => ih state (ha state)
  | write path content next => exact ha.1.elim

/-- What is written stays the same when a result is only changed. -/
theorem WritesOnce.map {P : PathName → String → Prop} {a : Access α} (ha : a.WritesOnce P)
    (f : α → β) : (a >>= fun r => done (f r)).WritesOnce P := by
  induction a with
  | done r => trivial
  | look path next ih => exact fun state => ih state (ha state)
  | write path content next =>
    obtain ⟨hp, hdone⟩ := ha
    refine ⟨hp, fun refusal => ?_⟩
    obtain ⟨r, hr⟩ := hdone refusal
    exact ⟨f r, by show (next refusal).andThen _ = _; rw [hr]; rfl⟩

/-- A reader writes nothing of any kind. -/
theorem IsReader.writesOnce {P : PathName → String → Prop} {a : Access α} (ha : a.IsReader) :
    a.WritesOnce P := by
  induction a with
  | done r => trivial
  | look path next ih => exact fun state => ih state (ha state)
  | write path content next => exact ha.1.elim

/-- **A run leaves the files as they are, or puts one file in its place.** -/
theorem files_run {P : PathName → String → Prop} {a : Access α} (h : a.WritesOnce P)
    (t : FileTree) :
    (a.run t).2 = t ∨ ∃ path content, P path content ∧
      t.put? path.parts content.toUTF8 = some (a.run t).2 := by
  induction a with
  | done r => exact .inl rfl
  | look path next ih => exact ih _ (h _)
  | write path content next =>
    obtain ⟨hp, hdone⟩ := h
    rw [run]
    split
    · next t' hput =>
      obtain ⟨r, hr⟩ := hdone none
      rw [hr]
      exact .inr ⟨path, content, hp, hput⟩
    · obtain ⟨r, hr⟩ := hdone (some t.refusal)
      rw [hr]
      exact .inl rfl

/-- A run goes on where a run has ended. -/
theorem run_bind (a : Access α) (f : α → Access β) (t : FileTree) :
    (a >>= f).run t = (f (a.run t).1).run (a.run t).2 := by
  induction a generalizing t with
  | done r => rfl
  | look path next ih => exact ih _ t
  | write path content next ih =>
    show (write path content fun r => (next r).andThen f).run t = _
    rw [run, run]
    split
    · exact ih _ _
    · exact ih _ _

end Access

/-! ## Putting a file -/

namespace FileTree

/-- Taking one key out of a list does not matter for another. -/
theorem lookup_filter_ne {place other : List String} (h : other ≠ place)
    (files : List (List String × ByteArray)) :
    (files.filter fun f => f.1 ≠ place).lookup other = files.lookup other := by
  induction files with
  | nil => rfl
  | cons f files ih =>
    by_cases hf : f.1 = place
    · have hother : (other == f.1) = false := beq_eq_false_iff_ne.2 (hf ▸ h)
      rw [List.filter_cons_of_neg (by simpa using hf), ih, List.lookup_cons, hother]
    · rw [List.filter_cons_of_pos (by simpa using hf), List.lookup_cons, List.lookup_cons, ih]

/-- **A file that is put is there, and every other file is what it was.** -/
theorem lookup_put? {t t' : FileTree} {place : List String} {content : ByteArray}
    (h : t.put? place content = some t') (other : List String) :
    t'.files.lookup other = if other = place then some content else t.files.lookup other := by
  rw [put?] at h
  split at h
  · cases h
  · obtain rfl := Option.some.inj h
    split
    · next heq => rw [heq, List.lookup_cons, beq_self_eq_true]
    · next hne => rw [List.lookup_cons, beq_eq_false_iff_ne.2 hne, lookup_filter_ne hne]

/-- **Putting a file changes nothing elsewhere**, but for the folders above it. -/
theorem entryAt_put? {t t' : FileTree} {place other : List String} {content : ByteArray}
    (h : t.put? place content = some t') (hne : other ≠ place) (habove : other ∉ above place) :
    t'.entryAt other = t.entryAt other := by
  have hlookup := lookup_put? h other
  rw [if_neg hne] at hlookup
  have hfolder : t'.folders.contains other = t.folders.contains other := by
    rw [put?] at h
    split at h
    · cases h
    · obtain rfl := Option.some.inj h
      rw [Bool.eq_iff_iff, List.contains_iff_mem, List.contains_iff_mem, List.mem_append]
      exact or_iff_left fun hmem => habove ((List.mem_filter.1 hmem).1)
  have hrefusal : t'.refusal = t.refusal := by
    rw [put?] at h
    split at h
    · cases h
    · obtain rfl := Option.some.inj h
      rfl
  rw [entryAt, entryAt, hlookup, hfolder, hrefusal]

end FileTree

end TaskQuery
