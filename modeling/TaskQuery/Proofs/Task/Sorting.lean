import Mathlib
import TaskQuery.Command.Search
import TaskQuery.Proofs.Calendar.Ordinal

/-!
# Sorted tasks

Tasks are sorted by what they have in a column.  The sort is stable in both directions, and tasks
that have nothing in the column come last in both.

* `SortValue`: what tasks are compared by, a text in lower case, a day or a level of priority, and
  `Task.sortValue?`: what a task has in a column.
* `sortKey?_eq`: the keys of the sort are these values, coded as lists of numbers in their order
  (`SortValue.key_lt_key_iff`).
* `perm_sortBy`, `pairwise_sortBy`, `filter_sortBy`, `sortBy_sortBy`: no task is lost or doubled, keys
  are in order, tasks with one key keep theirs, and a second sort changes nothing.
* `sorted?_isSorting`: what this means for a request to sort.
-/

namespace TaskQuery

/-! ## What tasks are compared by -/

/-- What a task is compared by in a column. -/
inductive SortValue where
  /-- A text in lower case. -/
  | text (lowered : List Char)
  /-- A day. -/
  | day (d : Date)
  /-- A level of priority. -/
  | level (p : Priority)
  deriving DecidableEq

namespace SortValue

/-- A value that goes before another one of its column: texts go by their characters, days by the
calendar, and priorities from the highest level down. -/
def Before : SortValue → SortValue → Prop
  | text a, text b => a < b
  | day d, day e => d < e
  | level p, level q => p.rank < q.rank
  | _, _ => False

/-- The value as it is compared. -/
def key : SortValue → Task.SortKey
  | text a => a.map Char.toNat
  | day d => [d.ordinal]
  | level p => [p.rank]

/-- Values that may stand in one column. -/
inductive Comparable : SortValue → SortValue → Prop where
  | text (a b : List Char) : Comparable (.text a) (.text b)
  | day (d e : Date) : Comparable (.day d) (.day e)
  | level (p q : Priority) : Comparable (.level p) (.level q)

variable {u v : SortValue}

/-- Texts are compared by the code points of their characters. -/
theorem map_toNat_lt_iff (a b : List Char) : a.map Char.toNat < b.map Char.toNat ↔ a < b := by
  have hmono : ∀ {a b : List Char}, a < b → a.map Char.toNat < b.map Char.toNat :=
    List.map_lt fun c d hcd => hcd
  constructor
  · intro h
    obtain hlt | rfl | hgt := lt_trichotomy a b
    · exact hlt
    · exact absurd h (List.lt_irrefl _)
    · exact absurd (lt_trans h (hmono hgt)) (List.lt_irrefl _)
  · exact hmono

/-- Keys are ordered as the values that they stand for. -/
theorem key_lt_key_iff (h : Comparable u v) : u.key < v.key ↔ u.Before v := by
  have hsingle : ∀ m n : Nat, [m] < [n] ↔ m < n := fun m n => by simp [List.cons_lt_cons_iff]
  cases h with
  | text a b => exact map_toNat_lt_iff a b
  | day d e => exact hsingle d.ordinal e.ordinal
  | level p q => exact hsingle p.rank q.rank

/-- Different values of one kind have different keys. -/
theorem key_inj (h : Comparable u v) (hkey : u.key = v.key) : u = v := by
  cases h with
  | text a b =>
    have hinj : Function.Injective Char.toNat := fun c d hcd => Char.ext (UInt32.toNat_inj.1 hcd)
    rw [List.map_injective_iff.2 hinj hkey]
  | day d e => rw [Date.ordinal_injective (List.singleton_injective hkey)]
  | level p q =>
    have hrank : p.rank = q.rank := List.singleton_injective hkey
    cases p <;> cases q <;> simp_all [Priority.rank]

end SortValue

namespace Task

variable {spellings : Spellings} {c : Column} {descending : Bool} {ts : List Task} {t : Task}

/-- The dates of the task are whole days. -/
def HasWholeDays (t : Task) : Prop :=
  (∀ s ∈ t.scheduled, s.time = none) ∧ ∀ s ∈ t.deadline, s.time = none

/-- A text as it is compared; an empty one is left out. -/
def textValue? (s : String) : Option SortValue :=
  if s = "" then none else some (.text (Text.lower s.toList))

/-- What a task has in a column: nothing for an empty text or an absent date, and for a priority that
is spelled like none of the levels. -/
def sortValue? (spellings : Spellings) (c : Column) (t : Task) : Option SortValue :=
  match c with
  | .state => textValue? t.state
  | .text => textValue? t.text
  | .path => textValue? t.path
  | .scheduled => t.scheduled.map fun s => .day s.date
  | .deadline => t.deadline.map fun s => .day s.date
  | .priority =>
    (Priority.all.find? fun p => spellings.normalize t.priority = some p.name).map .level

/-- The values in a column compare. -/
theorem comparable_of_sortValue? {a b : Task} {u v : SortValue}
    (hu : a.sortValue? spellings c = some u) (hv : b.sortValue? spellings c = some v) :
    u.Comparable v := by
  have htext : ∀ {s : String} {w : SortValue}, textValue? s = some w → ∃ l, .text l = w := by
    intro s w h
    unfold textValue? at h
    split at h
    · cases h
    · exact ⟨_, Option.some.inj h⟩
  cases c with
  | state | text | path =>
    obtain ⟨l, rfl⟩ := htext hu
    obtain ⟨m, rfl⟩ := htext hv
    exact .text l m
  | scheduled | deadline =>
    obtain ⟨s, -, rfl⟩ := Option.map_eq_some_iff.1 hu
    obtain ⟨s', -, rfl⟩ := Option.map_eq_some_iff.1 hv
    exact .day s.date s'.date
  | priority =>
    obtain ⟨p, -, rfl⟩ := Option.map_eq_some_iff.1 hu
    obtain ⟨q, -, rfl⟩ := Option.map_eq_some_iff.1 hv
    exact .level p q

/-- **The key of a task is its value.** -/
theorem sortKey?_eq (h : t.HasWholeDays) :
    sortKey? spellings c t = (t.sortValue? spellings c).map SortValue.key := by
  have htext : ∀ s : String, textKey? s = (textValue? s).map SortValue.key := by
    intro s
    unfold textKey? textValue?
    split <;> rfl
  have hstamp : ∀ date : Option Stamp, (∀ s ∈ date, s.time = none) →
      date.map stampKey = (date.map fun s => SortValue.day s.date).map SortValue.key := by
    intro date hdate
    cases date with
    | none => rfl
    | some s => simp [stampKey, SortValue.key, hdate s rfl]
  cases c with
  | state => exact htext t.state
  | text => exact htext t.text
  | path => exact htext t.path
  | scheduled => exact hstamp t.scheduled h.1
  | deadline => exact hstamp t.deadline h.2
  | priority =>
    unfold sortKey? sortValue?
    rw [Option.map_map]
    cases spellings.normalize t.priority with
    | none => simp
    | some s => simp [Priority.ofName?, SortValue.key, Function.comp_def, beq_eq_decide, eq_comm]

/-! ## Sorting by keys -/

/-- The tasks that have a key, each with its key. -/
def keyed (spellings : Spellings) (c : Column) (ts : List Task) : List (SortKey × Task) :=
  ts.filterMap fun t => (sortKey? spellings c t).map (·, t)

/-- The tasks without a key. -/
def unkeyed (spellings : Spellings) (c : Column) (ts : List Task) : List Task :=
  ts.filter fun t => (sortKey? spellings c t).isNone

/-- The tasks that have a key, in order. -/
def arranged (spellings : Spellings) (c : Column) (descending : Bool) (ts : List Task) :
    List (SortKey × Task) :=
  (keyed spellings c ts).mergeSort (mayPrecede descending)

/-- Sorted tasks are those with keys, arranged, and those without, as they were. -/
theorem sortBy_eq : sortBy spellings c descending ts =
    (arranged spellings c descending ts).map Prod.snd ++ unkeyed spellings c ts := rfl

/-- A task may precede another one if its key does, or the other way round if descending. -/
theorem mayPrecede_iff {a b : SortKey × Task} :
    mayPrecede descending a b = true ↔ if descending then b.1 ≤ a.1 else a.1 ≤ b.1 := by
  cases descending <;> simp [mayPrecede]

/-- What may precede goes on to what that may precede. -/
theorem mayPrecede_trans (a b d : SortKey × Task) (hab : mayPrecede descending a b = true)
    (hbd : mayPrecede descending b d = true) : mayPrecede descending a d = true := by
  rw [mayPrecede_iff] at *
  cases descending with
  | true => exact le_trans hbd hab
  | false => exact le_trans hab hbd

/-- Of two tasks one may precede the other. -/
theorem mayPrecede_total (a b : SortKey × Task) :
    (mayPrecede descending a b || mayPrecede descending b a) = true := by
  rw [Bool.or_eq_true, mayPrecede_iff, mayPrecede_iff]
  cases descending with
  | true => exact le_total b.1 a.1
  | false => exact le_total a.1 b.1

/-- A keyed task stands with its key. -/
theorem sortKey?_of_mem_keyed {p : SortKey × Task} (h : p ∈ keyed spellings c ts) :
    sortKey? spellings c p.2 = some p.1 := by
  obtain ⟨t, -, hp⟩ := List.mem_filterMap.1 h
  obtain ⟨k, hk, rfl⟩ := Option.map_eq_some_iff.1 hp
  exact hk

/-- The tasks whose key is of some kind. -/
theorem map_snd_filter_keyed (P : SortKey → Bool) :
    ((keyed spellings c ts).filter fun p => P p.1).map Prod.snd =
      ts.filter fun t => (sortKey? spellings c t).any P := by
  induction ts with
  | nil => rfl
  | cons t ts ih =>
    unfold keyed at ih ⊢
    cases hk : sortKey? spellings c t with
    | none => rw [List.filterMap_cons_none (by rw [hk]; rfl), ih, List.filter_cons, hk]; rfl
    | some k =>
      rw [List.filterMap_cons_some (by rw [hk]; rfl), List.filter_cons, List.filter_cons, hk, ← ih,
        Option.any_some]
      cases P k <;> rfl

/-- The keyed tasks are those that have a key. -/
theorem map_snd_keyed :
    (keyed spellings c ts).map Prod.snd = ts.filter fun t => (sortKey? spellings c t).isSome := by
  have h := @map_snd_filter_keyed spellings c ts fun _ => true
  simpa using h

/-- Pairs of keys and tasks are found again. -/
theorem keyed_map_snd {ps : List (SortKey × Task)}
    (h : ∀ p ∈ ps, sortKey? spellings c p.2 = some p.1) :
    keyed spellings c (ps.map Prod.snd) = ps := by
  induction ps with
  | nil => rfl
  | cons p ps ih =>
    obtain ⟨hp, hps⟩ := List.forall_mem_cons.1 h
    have htail := ih hps
    unfold keyed at htail ⊢
    rw [List.map_cons, List.filterMap_cons_some (by rw [hp]; rfl), htail]

/-- An arranged task stands with its key. -/
theorem sortKey?_of_mem_arranged {p : SortKey × Task}
    (h : p ∈ arranged spellings c descending ts) : sortKey? spellings c p.2 = some p.1 :=
  sortKey?_of_mem_keyed (List.mem_mergeSort.1 h)

/-- The unkeyed tasks have no key. -/
theorem sortKey?_of_mem_unkeyed (h : t ∈ unkeyed spellings c ts) : sortKey? spellings c t = none :=
  Option.isNone_iff_eq_none.1 (List.mem_filter.1 h).2

/-- No task is lost and none is doubled. -/
theorem perm_sortBy : (sortBy spellings c descending ts).Perm ts := by
  have hkeyed : ((arranged spellings c descending ts).map Prod.snd).Perm
      (ts.filter fun t => (sortKey? spellings c t).isSome) := by
    rw [← map_snd_keyed]
    exact (List.mergeSort_perm _ _).map Prod.snd
  have hnone : unkeyed spellings c ts = ts.filter fun t => !(sortKey? spellings c t).isSome := by
    simp [unkeyed]
  rw [sortBy_eq, hnone]
  exact (hkeyed.append_right _).trans (List.filter_append_perm _ ts)

/-- Arranged tasks stand in order. -/
theorem pairwise_arranged : (arranged spellings c descending ts).Pairwise fun p q =>
    mayPrecede descending p q = true :=
  List.pairwise_mergeSort mayPrecede_trans mayPrecede_total _

/-- Where both tasks have a key, the key of the first one may stay in front. -/
theorem pairwise_sortBy : (sortBy spellings c descending ts).Pairwise fun a b =>
    ∀ k ∈ sortKey? spellings c a, ∀ l ∈ sortKey? spellings c b,
      if descending then l ≤ k else k ≤ l := by
  rw [sortBy_eq, List.pairwise_append, List.pairwise_map]
  refine ⟨pairwise_arranged.imp_of_mem fun {p q} hp hq hpq k hk l hl => ?_, ?_, ?_⟩
  · rw [sortKey?_of_mem_arranged hp] at hk
    rw [sortKey?_of_mem_arranged hq] at hl
    obtain rfl := Option.some.inj hk
    obtain rfl := Option.some.inj hl
    exact mayPrecede_iff.1 hpq
  · refine List.pairwise_of_forall_mem_list fun a ha b _ k hk => ?_
    rw [sortKey?_of_mem_unkeyed ha] at hk
    cases hk
  · intro a _ b hb k _ l hl
    rw [sortKey?_of_mem_unkeyed hb] at hl
    cases hl

/-- Tasks with one key keep their order: they may all stay as they are, so the sort keeps them as a
sublist, and it has no others. -/
theorem filter_sortBy (k : SortKey) :
    ((sortBy spellings c descending ts).filter fun t => sortKey? spellings c t = some k) =
      ts.filter fun t => sortKey? spellings c t = some k := by
  let one : List (SortKey × Task) := (keyed spellings c ts).filter fun p => p.1 = k
  have hpairwise : one.Pairwise fun p q => mayPrecede descending p q = true := by
    refine List.pairwise_of_forall_mem_list fun p hp q hq => ?_
    have hpk : p.1 = k := by simpa using (List.mem_filter.1 hp).2
    have hqk : q.1 = k := by simpa using (List.mem_filter.1 hq).2
    rw [mayPrecede_iff, hpk, hqk]
    simp
  have hone : one.map Prod.snd = ts.filter fun t => sortKey? spellings c t = some k := by
    refine (map_snd_filter_keyed fun l => l = k).trans (List.filter_congr fun t _ => ?_)
    cases sortKey? spellings c t <;> simp
  have hsublist : (one.map Prod.snd).Sublist (sortBy spellings c descending ts) := by
    have harranged : one.Sublist (arranged spellings c descending ts) :=
      List.sublist_mergeSort mayPrecede_trans mayPrecede_total hpairwise List.filter_sublist
    rw [sortBy_eq]
    exact (harranged.map Prod.snd).trans (List.sublist_append_left _ _)
  rw [hone] at hsublist
  have hfiltered := hsublist.filter fun t => sortKey? spellings c t = some k
  rw [List.filter_filter] at hfiltered
  simp only [Bool.and_self] at hfiltered
  refine (hfiltered.eq_of_length ?_).symm
  exact (perm_sortBy.symm.filter _).length_eq

/-- Those without a key come last, and keep their order. -/
theorem unkeyed_sortBy :
    unkeyed spellings c (sortBy spellings c descending ts) = unkeyed spellings c ts := by
  have harranged : unkeyed spellings c ((arranged spellings c descending ts).map Prod.snd) = [] := by
    refine List.filter_eq_nil_iff.2 fun t ht => ?_
    obtain ⟨p, hp, rfl⟩ := List.mem_map.1 ht
    rw [sortKey?_of_mem_arranged hp]
    simp
  have happend : ∀ us vs : List Task,
      unkeyed spellings c (us ++ vs) = unkeyed spellings c us ++ unkeyed spellings c vs :=
    fun us vs => List.filter_append us vs
  have htwice : unkeyed spellings c (unkeyed spellings c ts) = unkeyed spellings c ts :=
    List.filter_eq_self.2 fun t ht => (List.mem_filter.1 ht).2
  rw [sortBy_eq, happend, harranged, htwice, List.nil_append]

/-- Sorted tasks have their keys in order already. -/
theorem keyed_sortBy : keyed spellings c (sortBy spellings c descending ts) =
    arranged spellings c descending ts := by
  have hnil : keyed spellings c (unkeyed spellings c ts) = [] := by
    refine List.filterMap_eq_nil_iff.2 fun t ht => ?_
    rw [sortKey?_of_mem_unkeyed ht]
    rfl
  have happend : ∀ us vs : List Task,
      keyed spellings c (us ++ vs) = keyed spellings c us ++ keyed spellings c vs :=
    fun us vs => List.filterMap_append
  rw [sortBy_eq, happend, hnil, List.append_nil]
  exact keyed_map_snd fun p hp => sortKey?_of_mem_arranged hp

/-- Sorting again changes nothing. -/
theorem sortBy_sortBy : sortBy spellings c descending (sortBy spellings c descending ts) =
    sortBy spellings c descending ts := by
  rw [sortBy_eq, unkeyed_sortBy, arranged, keyed_sortBy,
    List.mergeSort_of_pairwise pairwise_arranged, ← sortBy_eq]

/-! ## Sorting by values -/

/-- The tasks of a list are sorted by a column. -/
structure IsSorting (spellings : Spellings) (c : Column) (descending : Bool)
    (ts sorted : List Task) : Prop where
  /-- They are the same tasks. -/
  perm : sorted.Perm ts
  /-- Those that have nothing in the column come last, as they were. -/
  missing_last : sorted = (sorted.filter fun t => (t.sortValue? spellings c).isSome) ++
    ts.filter fun t => (t.sortValue? spellings c).isNone
  /-- The values of the others go up, or down. -/
  ordered : sorted.Pairwise fun a b =>
    ∀ u ∈ a.sortValue? spellings c, ∀ v ∈ b.sortValue? spellings c,
      ¬if descending then u.Before v else v.Before u
  /-- Those with one value are as they were. -/
  stable : ∀ v, (sorted.filter fun t => t.sortValue? spellings c = some v) =
    ts.filter fun t => t.sortValue? spellings c = some v

/-- Among tasks with whole days, a value is had exactly by those with its key. -/
theorem sortKey?_eq_some_iff {a b : Task} {v : SortValue} (ha : a.HasWholeDays)
    (hv : b.sortValue? spellings c = some v) :
    sortKey? spellings c a = some v.key ↔ a.sortValue? spellings c = some v := by
  rw [sortKey?_eq ha, Option.map_eq_some_iff]
  constructor
  · rintro ⟨u, hu, hkey⟩
    rw [hu, SortValue.key_inj (comparable_of_sortValue? hu hv) hkey]
  · intro h
    exact ⟨v, h, rfl⟩

section WholeDays

variable (hdays : ∀ t ∈ ts, t.HasWholeDays)
include hdays

/-- Sorting keeps whole days. -/
theorem hasWholeDays_sortBy : ∀ t ∈ sortBy spellings c descending ts, t.HasWholeDays :=
  fun t ht => hdays t (perm_sortBy.mem_iff.1 ht)

/-- What lacks a value lacks a key, and so comes last. -/
theorem missing_last_sortBy : sortBy spellings c descending ts =
    ((sortBy spellings c descending ts).filter fun t => (t.sortValue? spellings c).isSome) ++
      ts.filter fun t => (t.sortValue? spellings c).isNone := by
  have hsorted : ∀ t ∈ sortBy spellings c descending ts, t.HasWholeDays :=
    hasWholeDays_sortBy hdays
  have hnone : unkeyed spellings c ts = ts.filter fun t => (t.sortValue? spellings c).isNone :=
    List.filter_congr fun t ht => by rw [sortKey?_eq (hdays t ht), Option.isNone_map]
  have hsome : ((sortBy spellings c descending ts).filter
      fun t => (t.sortValue? spellings c).isSome) =
        (arranged spellings c descending ts).map Prod.snd := by
    rw [← keyed_sortBy, map_snd_keyed]
    exact List.filter_congr fun t ht => by rw [sortKey?_eq (hsorted t ht), Option.isSome_map]
  rw [hsome, ← hnone, ← sortBy_eq]

/-- Sorted tasks stand in the order of their values. -/
theorem ordered_sortBy : (sortBy spellings c descending ts).Pairwise fun a b =>
    ∀ u ∈ a.sortValue? spellings c, ∀ v ∈ b.sortValue? spellings c,
      ¬if descending then u.Before v else v.Before u := by
  have hsorted : ∀ t ∈ sortBy spellings c descending ts, t.HasWholeDays :=
    hasWholeDays_sortBy hdays
  refine pairwise_sortBy.imp_of_mem fun {a b} ha hb h u hu v hv => ?_
  have hab := h u.key (by rw [sortKey?_eq (hsorted a ha), hu]; rfl) v.key
    (by rw [sortKey?_eq (hsorted b hb), hv]; rfl)
  cases descending with
  | true =>
    rw [if_pos rfl] at hab ⊢
    rw [← SortValue.key_lt_key_iff (comparable_of_sortValue? hu hv)]
    exact not_lt_of_ge hab
  | false =>
    rw [if_neg (by decide)] at hab ⊢
    rw [← SortValue.key_lt_key_iff (comparable_of_sortValue? hv hu)]
    exact not_lt_of_ge hab

/-- Tasks of one value stay in their order. -/
theorem stable_sortBy (v : SortValue) :
    ((sortBy spellings c descending ts).filter fun t => t.sortValue? spellings c = some v) =
      ts.filter fun t => t.sortValue? spellings c = some v := by
  by_cases hv : ∃ b ∈ ts, b.sortValue? spellings c = some v
  · obtain ⟨b, -, hb⟩ := hv
    have hkey : ∀ us : List Task, (∀ t ∈ us, t.HasWholeDays) →
        (us.filter fun t => t.sortValue? spellings c = some v) =
          us.filter fun t => sortKey? spellings c t = some v.key :=
      fun us hus => List.filter_congr fun t ht =>
        decide_eq_decide.2 (sortKey?_eq_some_iff (hus t ht) hb).symm
    rw [hkey _ (hasWholeDays_sortBy hdays), hkey _ hdays]
    exact filter_sortBy v.key
  · -- no task has the value, so both lists are empty
    have hnone : ∀ us : List Task, us ⊆ ts →
        (us.filter fun t => t.sortValue? spellings c = some v) = [] := by
      intro us hus
      exact List.filter_eq_nil_iff.2 fun t ht htv => hv ⟨t, hus ht, by simpa using htv⟩
    rw [hnone _ perm_sortBy.subset, hnone _ (List.Subset.refl ts)]

/-- Sorting by a column is a sorting. -/
theorem isSorting_sortBy :
    IsSorting spellings c descending ts (sortBy spellings c descending ts) where
  perm := perm_sortBy
  missing_last := missing_last_sortBy hdays
  ordered := ordered_sortBy hdays
  stable := stable_sortBy hdays

end WholeDays

end Task

/-! ## Requests to sort -/

namespace Command

/-- The request to sort by a column. -/
def sortText (c : Column) (descending : Bool) : String :=
  if descending then "-" ++ c.name else c.name

/-- The text of a sorting is read back as it. -/
theorem orderOf_sortText (c : Column) (descending : Bool) :
    orderOf (some (sortText c descending)) = .ok (some ⟨c, descending⟩) := by
  have hrequest : Task.sortRequest (sortText c descending) = (c.name, descending) := by
    cases c <;> cases descending <;> decide
  have hname : Column.ofName? c.name = some c := by
    cases c <;> decide
  simp only [orderOf, hrequest, hname]

variable {spellings : Spellings} {c : Column} {descending : Bool} {ts : List Task}

/-- Whole days compare, so that the sort is not refused. -/
theorem sorted?_of_wholeDays (hdays : ∀ t ∈ ts, t.HasWholeDays) :
    sorted? spellings (some ⟨c, descending⟩) ts =
      some (Task.sortBy spellings c descending ts) := by
  have hstamps : ∀ s ∈ ts.filterMap (Task.stampIn c), s.time = none := by
    intro s hs
    obtain ⟨t, ht, hs⟩ := List.mem_filterMap.1 hs
    cases c with
    | scheduled => exact (hdays t ht).1 s hs
    | deadline => exact (hdays t ht).2 s hs
    | state | priority | text | path => cases hs
  have hsort : Task.canSort c ts = true := by
    unfold Task.canSort
    rw [Bool.or_eq_true]
    right
    apply List.all_eq_true.2
    intro s hs
    rw [hstamps s hs]
    rfl
  rw [sorted?, if_pos hsort]

/-- **Tasks are sorted by a column, either way.**  Whatever the spellings of priorities are, a request
for a column by its name, with or without a dash in front, sorts all tasks whose dates are whole days:
those with nothing in the column come last as they were, the values of the others go up or down, and
tasks with one value keep their order.  Sorting the result again changes nothing. -/
theorem sorted?_isSorting (hdays : ∀ t ∈ ts, t.HasWholeDays) :
    orderOf (some (sortText c descending)) = .ok (some ⟨c, descending⟩) ∧
      ∃ sorted, sorted? spellings (some ⟨c, descending⟩) ts = some sorted ∧
        Task.IsSorting spellings c descending ts sorted ∧
        sorted? spellings (some ⟨c, descending⟩) sorted = some sorted := by
  refine ⟨orderOf_sortText c descending, _, sorted?_of_wholeDays hdays,
    Task.isSorting_sortBy hdays, ?_⟩
  rw [sorted?_of_wholeDays (Task.hasWholeDays_sortBy hdays), Task.sortBy_sortBy]

/-- Two priorities of one level, one that is spelled like none, and one that is missing. -/
theorem sorted?_isSorting_priority :
    let ts : List Task := [{ path := "a.md", priority := some "weird" },
      { path := "b.md", priority := some "C" }, { path := "c.md", priority := some " high " },
      { path := "d.md" }, { path := "e.md", priority := some "a" }]
    (∀ t ∈ ts, t.HasWholeDays) ∧
      orderOf (some (sortText .priority true)) = .ok (some ⟨.priority, true⟩) ∧
      ∃ sorted, sorted? .builtin (some ⟨.priority, true⟩) ts = some sorted ∧
        Task.IsSorting .builtin .priority true ts sorted ∧
        sorted? .builtin (some ⟨.priority, true⟩) sorted = some sorted := by
  intro ts
  have hdays : ∀ t ∈ ts, t.HasWholeDays := by
    simp [ts, Task.HasWholeDays]
  exact ⟨hdays, sorted?_isSorting hdays⟩

end Command

end TaskQuery
