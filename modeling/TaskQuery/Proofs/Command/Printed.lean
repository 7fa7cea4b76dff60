import TaskQuery.Proofs.Json.Characters
import TaskQuery.Proofs.Task.Loading
import TaskQuery.Proofs.Task.Record

/-!
# Printed tasks are a task export

A search that prints its results as JSON prints a list of records.  Saved as a file, the list is
an export of exactly the tasks that were found.  This needs that the tasks come from records, that
their lines are short enough to be written, and that no control sequence is taken out of the text.

* `Task.IsStorable`, `isStorable_of_read`: the tasks of an export can be written and read back.
* `out_line_tasks`: printing leaves the text of a list of tasks as it is.
* `fits_records_of_read`: where an export was read there is room for what is printed of it.
* `read_printed`: a printed list of tasks is an export of these tasks.
* `searchSource_readBack`: what a search prints is an export of what it found.
-/

namespace TaskQuery

open Text

open Value (Fits)

variable {nesting : Nat}

/-! ## Tasks of an export -/

namespace Task

/-- A task that its record stands for, and whose record can be written. -/
structure IsStorable (t : Task) : Prop extends t.IsRecorded where
  /-- The number of its line is not too long. -/
  line : isWritable t.line = true

/-- The line of a record that keeps to the bounds is not too long. -/
theorem isWritable_of_lineField {fields : Entries} {n : Int} (h : lineField fields = .ok n)
    (hfields : ∀ v, fields.get? "line" = some v → Fits nesting v) : isWritable n = true := by
  unfold lineField at h
  split at h
  · rw [← Except.ok.inj h]
    decide
  · next m hline =>
    rw [← Except.ok.inj h]
    cases hfields _ hline with
    | int hm => exact hm
    | other hint => exact absurd rfl (hint m)
  · cases h

/-- A task of a record that keeps to the bounds can be written. -/
theorem isStorable_of_ofRecord {record : Entries} {t : Task} (h : ofRecord nesting record = .ok t)
    (hrecord : ∀ e ∈ record, Fits nesting e.2) : t.IsStorable := by
  refine ⟨isRecorded_of_ofRecord h, ?_⟩
  obtain ⟨path, -, h⟩ := bind_eq_ok.1 h
  obtain ⟨priority, -, h⟩ := bind_eq_ok.1 h
  obtain ⟨line, hline, h⟩ := bind_eq_ok.1 h
  obtain ⟨rawText, -, h⟩ := bind_eq_ok.1 h
  obtain ⟨text, -, h⟩ := bind_eq_ok.1 h
  obtain ⟨state, -, h⟩ := bind_eq_ok.1 h
  obtain ⟨scheduled, -, h⟩ := bind_eq_ok.1 h
  obtain ⟨deadline, -, h⟩ := bind_eq_ok.1 h
  rw [← Except.ok.inj h]
  exact isWritable_of_lineField hline fun v hv => fits_of_get?_normalizeRecord hrecord hv

/-- The record of a task is written exactly as far as its line is. -/
theorem isExact_toRecord {t : Task} (h : t.IsStorable) : Json.IsExact (.object t.toRecord) := by
  refine .object (by simp [toRecord]) ?_
  have hdate (date : Option Stamp) : Json.IsExact (dateValue date) := by
    cases date with
    | none => exact .null
    | some s => exact .text _
  simp only [toRecord, List.forall_mem_cons]
  refine ⟨.text _, .int h.line, .text _, .text _, .text _, ?_, hdate _, hdate _, .bool _, by simp⟩
  cases t.priority with
  | none => exact .null
  | some p => exact .text p

/-- The record of a task takes one level. -/
theorem fits_toRecord {t : Task} (h : t.IsStorable) (n : Nat) :
    Fits (n + 1) (.object t.toRecord) := by
  have htext (s : String) : Fits n (.text s) := .other (by simp) (by simp) (by simp)
  have hnull : Fits n .null := .other (by simp) (by simp) (by simp)
  have hbool (b : Bool) : Fits n (.bool b) := .other (by simp) (by simp) (by simp)
  have hdate (date : Option Stamp) : Fits n (dateValue date) := by
    cases date with
    | none => exact hnull
    | some s => exact htext _
  refine .object ?_
  simp only [toRecord, List.forall_mem_cons]
  refine ⟨htext _, .int h.line, htext _, htext _, htext _, ?_, hdate _, hdate _, hbool _, by simp⟩
  cases t.priority with
  | none => exact hnull
  | some p => exact htext p

/-- The list of the records of tasks takes two levels. -/
theorem fits_records {tasks : List Task} (h : ∀ t ∈ tasks, t.IsStorable) (n : Nat) :
    Fits (n + 2) (.list (tasks.map fun t => .object t.toRecord)) := by
  refine .list fun v hv => ?_
  obtain ⟨t, ht, rfl⟩ := List.mem_map.1 hv
  exact fits_toRecord (h t ht) n

end Task

namespace TaskExport

variable {content : ByteArray} {e : TaskExport}

/-- The tasks of an export come from the elements of a list that keeps to the bounds. -/
theorem exists_items_of_read (h : read nesting (.bytes content) = .ok e) :
    ∃ items, Fits nesting (.list items) ∧ List.Forall₂ (IsTask nesting) items e.tasks := by
  cases (read_eq_iff _).1 h with
  | «export» hv _ hitems hall => exact ⟨_, fits_taskList hv hitems, hall⟩

/-- Each task comes from one of the elements. -/
theorem exists_record_of_mem {items : List Value} {tasks : List Task} {t : Task}
    (h : List.Forall₂ (IsTask nesting) items tasks) (ht : t ∈ tasks) :
    ∃ record, .object record ∈ items ∧ Task.ofRecord nesting record = .ok t := by
  induction h with
  | nil => cases ht
  | @cons item t' items tasks hitem _ ih =>
    rcases List.mem_cons.1 ht with rfl | ht
    · obtain ⟨record, rfl, hrecord⟩ := hitem
      exact ⟨record, List.mem_cons_self, hrecord⟩
    · obtain ⟨record, hmem, hrecord⟩ := ih ht
      exact ⟨record, List.mem_cons_of_mem item hmem, hrecord⟩

/-- A task of an export comes from one of its records, and there all numbers can be written. -/
theorem isStorable_of_read {t : Task} (h : read nesting (.bytes content) = .ok e)
    (ht : t ∈ e.tasks) : t.IsStorable := by
  obtain ⟨items, hfits, hall⟩ := exists_items_of_read h
  obtain ⟨record, hrecord, hof⟩ := exists_record_of_mem hall ht
  exact Task.isStorable_of_ofRecord hof fun e he =>
    fits_of_mem_record (fits_of_mem_items hfits hrecord) he

/-- Where an export was read there is room for the records of its tasks. -/
theorem fits_records_of_read (h : read nesting (.bytes content) = .ok e) {tasks : List Task}
    (htasks : ∀ t ∈ tasks, t ∈ e.tasks) :
    Fits nesting (.list (tasks.map fun t => .object t.toRecord)) := by
  obtain ⟨items, hfits, hall⟩ := exists_items_of_read h
  cases hfits with
  | other _ hlist => exact absurd rfl (hlist items)
  | list hitems =>
    refine .list fun v hv => ?_
    obtain ⟨t, ht, rfl⟩ := List.mem_map.1 hv
    obtain ⟨record, hrecord, -⟩ := exists_record_of_mem hall (htasks t ht)
    cases hitems _ hrecord with
    | other _ _ hobject => exact absurd rfl (hobject record)
    | object => exact Task.fits_toRecord (isStorable_of_read h (htasks t ht)) _

end TaskExport

/-! ## Printing -/

namespace Command

variable {s : List Char}

/-- Without an escape character there is no control sequence to take out. -/
theorem withoutControls_of_not_mem (h : '\x1b' ∉ s) : Output.withoutControls s = s := by
  induction s with
  | nil => rw [Output.withoutControls]
  | cons c s ih =>
    obtain ⟨hc, hs⟩ := not_or.1 (mt List.mem_cons.2 h)
    have hcontrol : Output.afterControl? (c :: s) = none := by
      unfold Output.afterControl?
      split
      · next heq => exact absurd (List.cons.inj heq).1.symm hc
      · rfl
    rw [Output.withoutControls]
    split
    · next hsome => simp [hcontrol] at hsome
    · rw [ih hs]

/-- The text of a list of tasks. -/
def tasksText (tasks : List Task) : List Char :=
  (Json.writeLines (.list (tasks.map fun t => .object t.toRecord))).toList

/-- The records of tasks that can be stored are written and read without loss. -/
theorem isExact_tasks {tasks : List Task} (h : ∀ t ∈ tasks, t.IsStorable) :
    Json.IsExact (.list (tasks.map fun t => .object t.toRecord)) := by
  refine .list fun v hv => ?_
  obtain ⟨t, ht, rfl⟩ := List.mem_map.1 hv
  exact Task.isExact_toRecord (h t ht)

/-- Nothing is taken out of the text of a list of tasks when it is printed. -/
theorem out_line_tasks {tasks : List Task} (h : ∀ t ∈ tasks, t.IsStorable) :
    (Output.line (tasksText tasks)).out = tasksText tasks ++ ['\n'] := by
  have hcontrol : '\x1b' ∉ tasksText tasks := by
    intro hmem
    rw [tasksText, Json.writeLines, String.toList_ofList] at hmem
    exact absurd (Json.isShown_of_mem_writeAt (isExact_tasks h) hmem) (by decide)
  rw [Output.line, withoutControls_of_not_mem hcontrol]

/-- A printed list of tasks is an export of these tasks, where there is room for it. -/
theorem read_printed {tasks : List Task} (h : ∀ t ∈ tasks, t.IsStorable)
    (hfits : Fits nesting (.list (tasks.map fun t => .object t.toRecord))) :
    TaskExport.read nesting (.bytes (String.ofList (tasksText tasks ++ ['\n'])).toUTF8) =
      .ok ⟨tasks, []⟩ := by
  have htext : String.fromUTF8? (String.ofList (tasksText tasks ++ ['\n'])).toUTF8 =
      some (String.ofList (tasksText tasks ++ ['\n'])) :=
    dif_pos (String.ofList (tasksText tasks ++ ['\n'])).isValidUTF8
  have hread : Json.read nesting (String.ofList (tasksText tasks ++ ['\n'])).toList =
      .ok (.list (tasks.map fun t => .object t.toRecord)) := by
    rw [String.toList_ofList, tasksText, Json.writeLines, String.toList_ofList]
    exact Json.read_writeAt (isExact_tasks h) hfits ⟨true⟩ (by simp [Json.Blanks, Json.isBlank])
  have htasks : List.Forall₂ (TaskExport.IsTask nesting) (tasks.map fun t => .object t.toRecord) tasks := by
    refine List.forall₂_map_left_iff.2 (List.forall₂_same.2 fun t ht => ?_)
    exact ⟨t.toRecord, rfl, Task.ofRecord_toRecord (h t ht).toIsRecorded nesting⟩
  have hbags : TaskExport.propertyBags (.list (tasks.map fun t => .object t.toRecord)) =
      .object (TaskExport.ofBags []) := rfl
  rw [TaskExport.read_of_holds ⟨_, htext, hread⟩, TaskExport.ofValue_of_bags hbags,
    TaskExport.taskList, TaskExport.readTaskList, TaskExport.readTasks_of_forall₂ htasks]
  · rfl
  · intro entries heq
    cases heq

/-! ## Searching -/

/-- What is found is among the tasks. -/
theorem mem_of_filter {q : Query} {caseSensitive : Bool} {settings : Settings}
    {propertiesOf : String → Entries} {clock : Date} {tasks found : List Task} {t : Task}
    (h : q.filter caseSensitive settings propertiesOf clock tasks = .ok found) (ht : t ∈ found) :
    t ∈ tasks := by
  induction tasks generalizing found with
  | nil =>
    rw [← Except.ok.inj h] at ht
    exact ht
  | cons first tasks ih =>
    obtain ⟨matched, -, h⟩ := bind_eq_ok.1 h
    obtain ⟨rest, hrest, h⟩ := bind_eq_ok.1 h
    rw [← Except.ok.inj h] at ht
    cases matched with
    | true =>
      rcases List.mem_cons.1 ht with rfl | ht
      · exact List.mem_cons_self
      · exact List.mem_cons_of_mem first (ih hrest ht)
    | false => exact List.mem_cons_of_mem first (ih hrest ht)

/-- Sorting brings no tasks in. -/
theorem mem_of_sorted? {spellings : Spellings} {order : Option Order} {found tasks : List Task}
    {t : Task} (h : sorted? spellings order found = some tasks) (ht : t ∈ tasks) : t ∈ found := by
  unfold sorted? at h
  split at h
  · exact Option.some.inj h ▸ ht
  · next o =>
    split at h
    · rw [← Option.some.inj h, Task.sortBy, List.mem_append] at ht
      rcases ht with ht | ht
      · obtain ⟨⟨key, t⟩, hkeyed, rfl⟩ := List.mem_map.1 ht
        obtain ⟨u, hu, hkey⟩ := List.mem_filterMap.1 (List.mem_mergeSort.1 hkeyed)
        obtain ⟨_, -, heq⟩ := Option.map_eq_some_iff.1 hkey
        rwa [← (Prod.mk.inj heq).2]
      · exact (List.mem_filter.1 ht).1
    · cases h

/-- The tasks that a search shows of those that it found. -/
def shown (r : SearchRequest) (tasks : List Task) : List Task :=
  match r.limit with
  | some n => tasks.take n
  | none => tasks

/-- What is shown is among what was found. -/
theorem mem_of_shown {r : SearchRequest} {tasks : List Task} {t : Task} (h : t ∈ shown r tasks) :
    t ∈ tasks := by
  unfold shown at h
  split at h
  · exact List.mem_of_mem_take h
  · exact h

/-- A search for records prints those that it shows. -/
theorem out_finish {s : Session} {r : SearchRequest} {tasks : List Task}
    (hformat : r.format = .json) (h : ∀ t ∈ shown r tasks, t.IsStorable) :
    (finish s r tasks).output.out = tasksText (shown r tasks) ++ ['\n'] := by
  have hfinish : finish s r tasks =
      if (shown r tasks).isEmpty then { output := noResults s r.format r.query }
      else if r.format ≠ .json && !(shown r tasks).all Column.hasPlace then breaking .hugeNumber
      else { output := results s.width r.format r.query (shown r tasks) } := rfl
  rw [← out_line_tasks h, hfinish, hformat]
  cases shown r tasks with
  | nil => rfl
  | cons t ts => rfl

/-- **What a search prints is an export of what it found.**  First a task is read back from its
record, for every record that is a task.  So the list that a search prints, with the tasks that
match in their order, is loaded as these tasks; only what is said of the loading stands before
it. -/
theorem searchSource_readBack :
    (∀ nesting record t, Task.ofRecord nesting record = .ok t →
      Task.ofRecord nesting t.toRecord = .ok t) ∧
    ∀ (s : Session) (r : SearchRequest) (order : Option Order) (q : Query) (path : PathName)
      (content : ByteArray) (e : TaskExport) (found tasks : List Task),
      r.format = .json → TaskExport.read s.nesting (.bytes content) = .ok e →
      q.filter (r.caseSensitive.getD s.config.caseSensitive) (searchSettings s r)
        e.propertiesOf s.today e.tasks = .ok found →
      sorted? (searchSettings s r).spellings order found = some tasks →
      ∃ before printed,
        (searchSource s r order q path (.bytes content)).output.out = before ++ printed ∧
        (s.verbose = false → before = []) ∧
        TaskExport.read s.nesting (.bytes (String.ofList printed).toUTF8) =
          .ok ⟨shown r tasks, []⟩ := by
  refine ⟨fun nesting record t h =>
    Task.ofRecord_toRecord (Task.isRecorded_of_ofRecord h) nesting, ?_⟩
  intro s r order q path content e found tasks hformat hread hfound htasks
  have hmem : ∀ t ∈ shown r tasks, t ∈ e.tasks := fun t ht =>
    mem_of_filter hfound (mem_of_sorted? htasks (mem_of_shown ht))
  have hstorable : ∀ t ∈ shown r tasks, t.IsStorable := fun t ht =>
    TaskExport.isStorable_of_read hread (hmem t ht)
  have hfits := TaskExport.fits_records_of_read hread hmem
  have hout := out_finish (s := s) hformat hstorable
  have hsearch : searchExport s r order q e = finish s r tasks := by
    simp only [searchExport, hfound, htasks]
  obtain ⟨note, hafter⟩ : ∃ note, searchSource s r order q path (.bytes content) =
      (finish s r tasks).after (s.whenVerbose note) := by
    rw [searchSource, hread, ← hsearch]
    exact ⟨_, rfl⟩
  refine ⟨(s.whenVerbose note).out, _, ?_, ?_, read_printed hstorable hfits⟩
  · rw [hafter, ← hout]
    rfl
  · intro hverbose
    simp [Session.whenVerbose, hverbose]

/-- A search for open tasks among two, of which one is done. -/
theorem searchSource_readBack_open :
    let t : Task := { path := "a.md", text := "Größe 😀", state := "TODO", line := -3
                      scheduled := some (.day ⟨2024, 2, 29, by decide⟩) }
    let done : Task := { path := "b.md", completed := true }
    let content := (String.ofList (tasksText [t, done] ++ ['\n'])).toUTF8
    let s : Session := { width := 80, folders := ⟨⟨1, []⟩, ⟨1, []⟩⟩
                         today := ⟨2024, 1, 10, by decide⟩, config := {}
                         verbose := false, quiet := false }
    let r : SearchRequest := { query := "state:todo", tasks := none, format := .json
                               caseSensitive := none, today := none, weekStart := none
                               strict := false, limit := some 5, sort := none }
    let q : Query := .leaf (.field "state" "todo" false) 0
    ∃ before printed,
      (searchSource s r none q ⟨0, ["a.json"]⟩ (.bytes content)).output.out = before ++ printed ∧
      (s.verbose = false → before = []) ∧
      TaskExport.read s.nesting (.bytes (String.ofList printed).toUTF8) = .ok ⟨[t], []⟩ := by
  intro t done content s r q
  have hstorable : ∀ u ∈ [t, done], u.IsStorable := by
    refine List.forall_mem_cons.2 ⟨⟨⟨by decide, by decide, ?_, by simp⟩, by decide⟩,
      List.forall_mem_singleton.2 ⟨⟨by decide, by decide, by simp, by simp⟩, by decide⟩⟩
    rintro s ⟨⟩
    rfl
  refine searchSource_readBack.2 s r none q ⟨0, ["a.json"]⟩ content ⟨[t, done], []⟩ [t] [t] rfl
    (read_printed hstorable (Task.fits_records hstorable 948)) ?_ rfl
  decide +kernel

end Command

end TaskQuery
