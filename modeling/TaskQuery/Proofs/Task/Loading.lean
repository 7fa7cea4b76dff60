import Mathlib.Data.List.Forall2
import TaskQuery.Command.Search
import TaskQuery.Proofs.Json.Numbers
import TaskQuery.Proofs.Task.Record

/-!
# What loading a task export comes to

Loading decodes the bytes of a file, reads them as JSON, looks at the shape of the value and turns
the elements of the task list into tasks.  `Loads` says what comes of each content of a file: all
tasks of the list, in order, or one error.  Three of the errors are not reported as errors of the
export and break the program off.

* `Loads`: the outcome, one case for each step that can fail and one for success.
* `read_eq_iff`: loading has that outcome and no other.
* `fits_taskList`: the elements of the list keep to the bounds, so that a record with a list or an
  object where a text is expected is never refused for want of a text.
* `read_bytes`: which contents break the program off.
* `searchSource_of_error`: what a search makes of an error.
-/

namespace TaskQuery

open Value (Fits)

namespace TaskExport

variable {content : ByteArray} {v item : Value} {nesting index : Nat} {items : List Value}
  {tasks : List Task} {bags : Entries} {properties : List (String × Entries)}

/-! ## What a file holds -/

/-- The content of a file is the text of a JSON value that is nested at most `nesting` deep. -/
def Holds (nesting : Nat) (content : ByteArray) (v : Value) : Prop :=
  ∃ text, String.fromUTF8? content = some text ∧ Json.read nesting text.toList = .ok v

/-- What should be the list of tasks. -/
def taskList : Value → Value
  | .object entries => (Entries.get? entries "tasks").getD (.list [])
  | v => v

/-- What should be the properties of each file. -/
def propertyBags : Value → Value
  | .object entries => (Entries.get? entries "properties").getD (.object [])
  | _ => .object []

/-- Properties as the entries that they are read from. -/
def ofBags (properties : List (String × Entries)) : Entries :=
  properties.map fun (path, bag) => (path, .object bag)

/-- An element of a task list that is a task. -/
def IsTask (nesting : Nat) (item : Value) (t : Task) : Prop :=
  ∃ record, item = .object record ∧ Task.ofRecord nesting record = .ok t

/-- What is wrong with an element of a task list. -/
inductive IsFlaw (nesting index : Nat) : Value → Error → Prop where
  /-- The element is no object. -/
  | notAnObject {item : Value} (h : ∀ record, item ≠ .object record) :
    IsFlaw nesting index item (.notAnObject index)
  /-- The element is an object and no task. -/
  | notATask {record : Entries} {fault : Task.RecordError}
      (h : Task.ofRecord nesting record = .error fault) :
    IsFlaw nesting index (.object record) (.notATask index fault)

/-- What comes of the content of a file where lists and objects may be nested `nesting` deep. -/
inductive Loads (nesting : Nat) (content : ByteArray) : Except Error TaskExport → Prop where
  /-- The bytes are no text. -/
  | notUtf8 (h : String.fromUTF8? content = none) : Loads nesting content (.error .notUtf8)
  /-- The text is no JSON. -/
  | notJson {text : String} (htext : String.fromUTF8? content = some text)
      (h : Json.read nesting text.toList = .error .malformed) :
      Loads nesting content (.error .notJson)
  /-- The text has a number that is too long. -/
  | hugeNumber {text : String} (htext : String.fromUTF8? content = some text)
      (h : Json.read nesting text.toList = .error .hugeNumber) :
      Loads nesting content (.error .hugeNumber)
  /-- The text nests lists and objects too deep. -/
  | tooDeep {text : String} (htext : String.fromUTF8? content = some text)
      (h : Json.read nesting text.toList = .error .tooDeep) : Loads nesting content (.error .tooDeep)
  /-- The properties are none. -/
  | badProperties {v : Value} (hv : Holds nesting content v)
      (h : ∀ properties, propertyBags v ≠ .object (ofBags properties)) :
      Loads nesting content (.error .badProperties)
  /-- The tasks are no list. -/
  | notAList {v : Value} {properties : List (String × Entries)} (hv : Holds nesting content v)
      (hproperties : propertyBags v = .object (ofBags properties)) (h : ∀ items, taskList v ≠ .list items) :
      Loads nesting content (.error .notAList)
  /-- An element is no task, and those before it are. -/
  | flaw {v item : Value} {properties : List (String × Entries)} {before after : List Value}
      {tasks : List Task} {e : Error} (hv : Holds nesting content v)
      (hproperties : propertyBags v = .object (ofBags properties))
      (hitems : taskList v = .list (before ++ item :: after))
      (hbefore : List.Forall₂ (IsTask nesting) before tasks)
      (h : IsFlaw nesting before.length item e) : Loads nesting content (.error e)
  /-- Each element is a task. -/
  | export {v : Value} {e : TaskExport} {items : List Value} (hv : Holds nesting content v)
      (hproperties : propertyBags v = .object (ofBags e.properties)) (hitems : taskList v = .list items)
      (h : List.Forall₂ (IsTask nesting) items e.tasks) : Loads nesting content (.ok e)

/-! ## Elements of the list -/

/-- Tasks at the front of a list are read, and reading goes on with the index behind them. -/
theorem readTasks_append {before : List Value} (h : List.Forall₂ (IsTask nesting) before tasks)
    (index : Nat) (after : List Value) :
    readTasks nesting index (before ++ after) =
      (readTasks nesting (index + before.length) after).map (tasks ++ ·) := by
  induction h generalizing index with
  | nil =>
    simp only [List.nil_append, List.length_nil, Nat.add_zero]
    cases readTasks nesting index after <;> rfl
  | @cons item t before tasks hitem _ ih =>
    obtain ⟨record, rfl, ht⟩ := hitem
    rw [List.cons_append, readTasks, ht, ih, List.length_cons, Nat.add_right_comm,
      ← Nat.add_assoc]
    cases readTasks nesting (index + before.length + 1) after <;> rfl

/-- Items that are tasks are read as these tasks. -/
theorem readTasks_of_forall₂ (h : List.Forall₂ (IsTask nesting) items tasks) (index : Nat) :
    readTasks nesting index items = .ok tasks := by
  have happend := readTasks_append h index []
  rwa [List.append_nil, readTasks, Except.map, List.append_nil] at happend

/-- The first item with a flaw is the error. -/
theorem readTasks_flaw {e : Error} (h : IsFlaw nesting index item e) (items : List Value) :
    readTasks nesting index (item :: items) = .error e := by
  cases h with
  | notAnObject h =>
    rw [readTasks]
    · exact fun heq => nomatch heq
    · exact fun record _ heq => h record (List.cons.inj heq).1
  | notATask h =>
    rw [readTasks, h]
    rfl

/-- Every element is a task or has a flaw. -/
theorem isTask_or_isFlaw (nesting index : Nat) (item : Value) :
    (∃ t, IsTask nesting item t) ∨ ∃ e, IsFlaw nesting index item e := by
  by_cases h : ∃ record, item = .object record
  · obtain ⟨record, rfl⟩ := h
    cases hrecord : Task.ofRecord nesting record with
    | ok t => exact .inl ⟨t, record, rfl, hrecord⟩
    | error fault => exact .inr ⟨_, .notATask hrecord⟩
  · exact .inr ⟨_, .notAnObject fun record hitem => h ⟨record, hitem⟩⟩

/-- Each element of a list is a task, or one of them is the first that is not. -/
theorem forall₂_or_exists_flaw (nesting index : Nat) (items : List Value) :
    (∃ tasks, List.Forall₂ (IsTask nesting) items tasks) ∨
      ∃ before item after tasks e, items = before ++ item :: after ∧
        List.Forall₂ (IsTask nesting) before tasks ∧ IsFlaw nesting (index + before.length) item e := by
  induction items generalizing index with
  | nil => exact .inl ⟨[], .nil⟩
  | cons item items ih =>
    rcases isTask_or_isFlaw nesting index item with ⟨t, ht⟩ | ⟨e, he⟩
    · rcases ih (index + 1) with ⟨tasks, htasks⟩ | ⟨before, bad, after, tasks, e, rfl, htasks, he⟩
      · exact .inl ⟨t :: tasks, .cons ht htasks⟩
      · refine .inr ⟨item :: before, bad, after, t :: tasks, e, rfl, .cons ht htasks, ?_⟩
        rwa [List.length_cons, Nat.add_comm before.length, ← Nat.add_assoc]
    · exact .inr ⟨[], item, items, [], e, rfl, .nil, he⟩

/-! ## Properties -/

/-- Bags of properties are read as they are. -/
theorem readProperties_ofBags (properties : List (String × Entries)) :
    readProperties (ofBags properties) = .ok properties := by
  induction properties with
  | nil => rfl
  | cons p properties ih =>
    rw [ofBags, List.map_cons, readProperties, ← ofBags, ih]
    rfl

/-- What is not read as properties is none. -/
theorem readProperties_of_forall_ne (h : ∀ properties, bags ≠ ofBags properties) :
    readProperties bags = .error .badProperties := by
  induction bags with
  | nil => exact absurd rfl (h [])
  | cons b bags ih =>
    obtain ⟨path, v⟩ := b
    by_cases hv : ∃ bag, v = .object bag
    · obtain ⟨bag, rfl⟩ := hv
      rw [readProperties, ih]
      · rfl
      · rintro properties rfl
        exact h ((path, bag) :: properties) rfl
    · rw [readProperties]
      · exact fun heq => nomatch heq
      · exact fun _ bag _ heq => hv ⟨bag, (Prod.mk.inj (List.cons.inj heq).1).2⟩

/-- The properties in a value. -/
def readBags : Value → Except Error (List (String × Entries))
  | .object bags => readProperties bags
  | _ => .error .badProperties

/-- What is not made of bags is refused. -/
theorem readBags_of_forall_ne (h : ∀ properties, v ≠ .object (ofBags properties)) :
    readBags v = .error .badProperties := by
  cases v with
  | object bags => exact readProperties_of_forall_ne fun properties heq => h properties (heq ▸ rfl)
  | _ => rfl

/-! ## Values -/

/-- The properties are read first, then the tasks. -/
theorem ofValue_eq (nesting : Nat) (v : Value) :
    ofValue nesting v = (readBags (propertyBags v)).bind fun properties =>
      (readTaskList nesting (taskList v)).map fun tasks => ⟨tasks, properties⟩ := by
  cases v with
  | object entries =>
    rw [ofValue, propertyBags, taskList]
    cases Entries.get? entries "properties" with
    | none => rfl
    | some bags => cases bags <;> rfl
  | _ => rfl

/-- A file without proper bags is refused, whatever its tasks. -/
theorem ofValue_of_not_bags (h : ∀ properties, propertyBags v ≠ .object (ofBags properties)) :
    ofValue nesting v = .error .badProperties := by
  rw [ofValue_eq, readBags_of_forall_ne h]
  rfl

/-- With proper bags the tasks decide. -/
theorem ofValue_of_bags (h : propertyBags v = .object (ofBags properties)) :
    ofValue nesting v = (readTaskList nesting (taskList v)).map fun tasks => ⟨tasks, properties⟩ := by
  rw [ofValue_eq, h, readBags, readProperties_ofBags]
  rfl

/-! ## Files -/

/-- A file with text is read as the text says. -/
theorem read_of_text {text : String} (h : String.fromUTF8? content = some text) :
    read nesting (.bytes content) = (readText nesting text).bind (ofValue nesting) := by
  rw [read, h]
  rfl

/-- A file that holds a value is read as the value says. -/
theorem read_of_holds (h : Holds nesting content v) :
    read nesting (.bytes content) = ofValue nesting v := by
  obtain ⟨text, htext, hv⟩ := h
  rw [read_of_text htext, readText, hv]
  rfl

/-- What comes of a content is what loading gives. -/
theorem read_of_loads {r : Except Error TaskExport} (h : Loads nesting content r) :
    read nesting (.bytes content) = r := by
  cases h with
  | notUtf8 h => rw [read, h]
  | notJson htext h => rw [read_of_text htext, readText, h]; rfl
  | hugeNumber htext h => rw [read_of_text htext, readText, h]; rfl
  | tooDeep htext h => rw [read_of_text htext, readText, h]; rfl
  | badProperties hv h => rw [read_of_holds hv, ofValue_of_not_bags h]
  | notAList hv hproperties h =>
    rw [read_of_holds hv, ofValue_of_bags hproperties, readTaskList]
    · rfl
    · exact h
  | flaw hv hproperties hitems hbefore h =>
    rw [read_of_holds hv, ofValue_of_bags hproperties, hitems, readTaskList,
      readTasks_append hbefore, readTasks_flaw (by rwa [Nat.zero_add])]
    rfl
  | «export» hv hproperties hitems h =>
    rw [read_of_holds hv, ofValue_of_bags hproperties, hitems, readTaskList,
      readTasks_of_forall₂ h]
    rfl

/-- Something comes of every content. -/
theorem exists_loads (nesting : Nat) (content : ByteArray) : ∃ r, Loads nesting content r := by
  cases htext : String.fromUTF8? content with
  | none => exact ⟨_, .notUtf8 htext⟩
  | some text =>
    cases hread : Json.read nesting text.toList with
    | error fault =>
      cases fault with
      | malformed => exact ⟨_, .notJson htext hread⟩
      | hugeNumber => exact ⟨_, .hugeNumber htext hread⟩
      | tooDeep => exact ⟨_, .tooDeep htext hread⟩
    | ok v =>
      have hv : Holds nesting content v := ⟨text, htext, hread⟩
      by_cases hbags : ∃ properties, propertyBags v = .object (ofBags properties)
      · obtain ⟨properties, hproperties⟩ := hbags
        by_cases hlist : ∃ items, taskList v = .list items
        · obtain ⟨items, hitems⟩ := hlist
          rcases forall₂_or_exists_flaw nesting 0 items with
            ⟨tasks, htasks⟩ | ⟨before, item, after, tasks, e, rfl, htasks, he⟩
          · exact ⟨.ok ⟨tasks, properties⟩, .export hv hproperties hitems htasks⟩
          · rw [Nat.zero_add] at he
            exact ⟨_, .flaw hv hproperties hitems htasks he⟩
        · exact ⟨_, .notAList hv hproperties fun items heq => hlist ⟨items, heq⟩⟩
      · exact ⟨_, .badProperties hv fun properties heq => hbags ⟨properties, heq⟩⟩

/-- Loading a file gives what comes of its content. -/
theorem read_eq_iff (r : Except Error TaskExport) :
    read nesting (.bytes content) = r ↔ Loads nesting content r := by
  refine ⟨?_, read_of_loads⟩
  rintro rfl
  obtain ⟨r, hr⟩ := exists_loads nesting content
  rwa [read_of_loads hr]

/-! ## Values that fit -/

/-- The value that a file holds keeps to the bounds, and so does its list of tasks. -/
theorem fits_taskList (hv : Holds nesting content v) (hitems : taskList v = .list items) :
    Fits nesting (.list items) := by
  obtain ⟨text, -, hread⟩ := hv
  have hfits := Json.fits_of_read hread
  unfold taskList at hitems
  split at hitems
  · next entries =>
    cases hfits with
    | other _ _ hobject => exact absurd rfl (hobject entries)
    | object h =>
      cases hget : Entries.get? entries "tasks" with
      | none =>
        rw [hget, Option.getD_none] at hitems
        rw [← hitems]
        exact .list (by simp)
      | some tasks =>
        rw [hget, Option.getD_some] at hitems
        rw [← hitems]
        exact (h _ (Text.mem_of_lookup hget)).mono (Nat.le_succ _)
  · rwa [← hitems]

/-- The elements of a list that fits fit. -/
theorem fits_of_mem_items (h : Fits nesting (.list items)) (hitem : item ∈ items) :
    Fits nesting item := by
  cases h with
  | list h => exact (h item hitem).mono (Nat.le_succ _)
  | other _ hlist => exact absurd rfl (hlist items)

/-- The values in an object that fits fit. -/
theorem fits_of_mem_record {record : Entries} {e : String × Value}
    (h : Fits nesting (.object record)) (he : e ∈ record) : Fits nesting e.2 := by
  cases h with
  | object h => exact (h e he).mono (Nat.le_succ _)
  | other _ _ hobject => exact absurd rfl (hobject record)

/-! ## Errors that are not reported -/

/-- Whether an error is reported as one of the export; the others break the program off. -/
def Error.isReported : Error → Bool
  | notUtf8 | hugeNumber | tooDeep | notATask _ (.noText .tooDeep) => false
  | _ => true

/-- What is wrong with an element that fits is reported. -/
theorem IsFlaw.isReported {e : Error} (h : IsFlaw nesting index item e)
    (hitem : Fits nesting item) : e.isReported = true := by
  cases h with
  | notAnObject => rfl
  | @notATask record fault h =>
    cases fault with
    | noText reason =>
      exact absurd h (Task.ne_noText_of_ofRecord (fun e he => fits_of_mem_record hitem he) reason)
    | _ => rfl

/-- Every content of a file gives an export with one task for each element of its list, in their
order, or one error: the first one on the way.  The error is reported unless the bytes are no text,
a number in the text is too long, or the text nests lists and objects deeper than there is room
for. -/
theorem read_bytes (nesting : Nat) (content : ByteArray) :
    (∀ r, read nesting (.bytes content) = r ↔ Loads nesting content r) ∧
    ((∃ e, read nesting (.bytes content) = .error e ∧ e.isReported = false) ↔
      String.fromUTF8? content = none ∨
      ∃ text, String.fromUTF8? content = some text ∧
        (Json.read nesting text.toList = .error .hugeNumber ∨
          Json.read nesting text.toList = .error .tooDeep)) := by
  refine ⟨read_eq_iff, ?_, ?_⟩
  · rintro ⟨e, hread, he⟩
    cases (read_eq_iff _).1 hread with
    | notUtf8 h => exact .inl h
    | hugeNumber htext h => exact .inr ⟨_, htext, .inl h⟩
    | tooDeep htext h => exact .inr ⟨_, htext, .inr h⟩
    | notJson => cases he
    | badProperties => cases he
    | notAList => cases he
    | flaw hv _ hitems _ h =>
      have hitem := fits_of_mem_items (fits_taskList hv hitems)
        (List.mem_append_right _ List.mem_cons_self)
      rw [h.isReported hitem] at he
      cases he
  · rintro (h | ⟨text, htext, h | h⟩)
    · exact ⟨_, read_of_loads (.notUtf8 h), rfl⟩
    · exact ⟨_, read_of_loads (.hugeNumber htext h), rfl⟩
    · exact ⟨_, read_of_loads (.tooDeep htext h), rfl⟩

/-- A byte that is no UTF-8 is not reported. -/
example : ∃ e, read 2 (.bytes ⟨#[0x5b, 0x22, 0xff, 0x22, 0x5d]⟩) = .error e ∧ e.isReported = false :=
  ⟨.notUtf8, rfl, rfl⟩

end TaskExport

namespace Command

/-- A search ends with the message of a reported error, and breaks off for the others. -/
theorem searchSource_of_error {s : Session} {source : TaskExport.Source} {e : TaskExport.Error}
    (h : TaskExport.read s.nesting source = .error e) (r : SearchRequest)
    (order : Option Order) (q : Query) (path : PathName) :
    if e.isReported then
      searchSource s r order q path source = s.failure 2 (e.message path.text)
    else ∃ cause, searchSource s r order q path source = breaking cause := by
  rw [searchSource, h]
  cases e with
  | notUtf8 | hugeNumber | tooDeep => exact ⟨_, rfl⟩
  | notATask index fault =>
    cases fault with
    | noText reason =>
      cases reason with
      | hugeNumber => rfl
      | tooDeep => exact ⟨_, rfl⟩
    | _ => rfl
  | _ => rfl

end Command

end TaskQuery
