import TaskQuery.Proofs.Calendar.Iso
import TaskQuery.Proofs.Text.Plain
import TaskQuery.Proofs.Value.Entries
import TaskQuery.Proofs.Value.Texts
import TaskQuery.Task.Record

/-!
# Task records read back

Many records hold the same task: fields have two spellings, values of other kinds count as their
text, and dates are cut.  The record that is written for a task has none of this, and it holds the
task that it is written for as long as the task comes from a record.

* `ne_noText_of_ofRecord`: in a record that keeps to the bounds all that is read as a text has one.
* `IsRecorded`: what a task from a record is like.
* `ofRecord_toRecord`: such a task is read back from its record.
-/

namespace TaskQuery.Task

open Value (Fits)

variable {record fields : Entries} {t : Task} {name key : String} {date : Option Stamp}
  {nesting : Nat}

/-- What a record can hold: there is a path, a priority says something, and dates are whole days. -/
structure IsRecorded (t : Task) : Prop where
  path : t.path ≠ ""
  priority : t.priority ≠ some ""
  scheduled : ∀ s, t.scheduled = some s → s.time = none
  deadline : ∀ s, t.deadline = some s → s.time = none

/-! ## Fields that are read -/

/-- A path that is read is not empty. -/
theorem ne_empty_of_pathField {path : String} (h : pathField fields = .ok path) : path ≠ "" := by
  unfold pathField at h
  split at h
  · split at h
    · cases h
    · next hne => exact Except.ok.inj h ▸ hne
  · cases h

/-- A priority that is read is not empty. -/
theorem ne_empty_of_priorityField {priority : Option String}
    (h : priorityField fields = .ok priority) : priority ≠ some "" := by
  unfold priorityField at h
  split at h
  · rw [← Except.ok.inj h]
    simp
  · rw [← Except.ok.inj h]
    simp
  · rw [← Except.ok.inj h]
    split
    · simp
    · next hne => simpa using hne
  · cases h

/-- A date that is read is a whole day. -/
theorem time_of_dateField (h : dateField fields name key = .ok date) :
    ∀ s, date = some s → s.time = none := by
  unfold dateField at h
  split at h
  case h_4 =>
    rw [← Except.ok.inj h]
    rintro s ⟨⟩
    rfl
  case h_5 =>
    split at h
    · rw [← Except.ok.inj h]
      rintro s ⟨⟩
      rfl
    · cases h
  case h_6 => cases h
  all_goals
    rw [← Except.ok.inj h]
    rintro s ⟨⟩

/-- A task from a record has what a record can hold. -/
theorem isRecorded_of_ofRecord (h : ofRecord nesting record = .ok t) : t.IsRecorded := by
  obtain ⟨path, hpath, h⟩ := bind_eq_ok.1 h
  obtain ⟨priority, hpriority, h⟩ := bind_eq_ok.1 h
  obtain ⟨line, -, h⟩ := bind_eq_ok.1 h
  obtain ⟨rawText, -, h⟩ := bind_eq_ok.1 h
  obtain ⟨text, -, h⟩ := bind_eq_ok.1 h
  obtain ⟨state, -, h⟩ := bind_eq_ok.1 h
  obtain ⟨scheduled, hscheduled, h⟩ := bind_eq_ok.1 h
  obtain ⟨deadline, hdeadline, h⟩ := bind_eq_ok.1 h
  rw [← Except.ok.inj h]
  exact ⟨ne_empty_of_pathField hpath, ne_empty_of_priorityField hpriority,
    time_of_dateField hscheduled, time_of_dateField hdeadline⟩

/-! ## Fields with a text -/

/-- A field that keeps to the bounds has a text. -/
theorem exists_textField (h : ∀ v, fields.get? key = some v → Fits nesting v) :
    ∃ s, textField nesting fields key = .ok s := by
  unfold textField
  split
  · next v hv =>
    split
    · obtain ⟨t, ht⟩ := Value.exists_toText_of_fits (h v hv)
      exact ⟨String.ofList t, by rw [ht]; rfl⟩
    · exact ⟨"", rfl⟩
  · exact ⟨"", rfl⟩

/-- Every field has its value from the record. -/
theorem fits_of_get?_normalizeRecord (h : ∀ e ∈ record, Fits nesting e.2) {v : Value}
    (hv : (normalizeRecord record).get? key = some v) : Fits nesting v := by
  obtain ⟨p, hp, hvalue⟩ := Entries.exists_of_mem_ofPairs (Text.mem_of_lookup hv)
  obtain ⟨e, he, rfl⟩ := List.mem_map.1 hp
  rw [show v = e.2 from hvalue]
  exact h e he

section

variable {fault : WriteFault}

/-- A path is never refused for want of a text. -/
theorem pathField_ne_noText : pathField fields ≠ .error (.noText fault) := by
  unfold pathField
  split
  · split <;> simp
  · simp

/-- A priority is never refused for want of a text. -/
theorem priorityField_ne_noText : priorityField fields ≠ .error (.noText fault) := by
  unfold priorityField
  split <;> simp

/-- A line is never refused for want of a text. -/
theorem lineField_ne_noText : lineField fields ≠ .error (.noText fault) := by
  unfold lineField
  split <;> simp

/-- A date is never refused for want of a text. -/
theorem dateField_ne_noText : dateField fields name key ≠ .error (.noText fault) := by
  unfold dateField
  split
  case h_5 => split <;> simp
  all_goals simp

end

/-- **A record that keeps to the bounds is never refused for want of a text.** -/
theorem ne_noText_of_ofRecord (h : ∀ e ∈ record, Fits nesting e.2) (fault : WriteFault) :
    ofRecord nesting record ≠ .error (.noText fault) := by
  intro herror
  have hfield (key : String) : ∃ s, textField nesting (normalizeRecord record) key = .ok s :=
    exists_textField fun v hv => fits_of_get?_normalizeRecord h hv
  obtain ⟨rawText, hrawText⟩ := hfield "raw_text"
  obtain ⟨text, htext⟩ := hfield "text"
  obtain ⟨state, hstate⟩ := hfield "state"
  simp only [ofRecord, hrawText, htext, hstate, ok_bind, bind_eq_error] at herror
  rcases herror with h | ⟨_, -, h | ⟨_, -, h | ⟨_, -, h | ⟨_, -, h | ⟨_, -, h⟩⟩⟩⟩⟩
  · exact pathField_ne_noText h
  · exact priorityField_ne_noText h
  · exact lineField_ne_noText h
  · exact dateField_ne_noText h
  · exact dateField_ne_noText h
  · cases h

/-! ## Fields that are written -/

/-- A field with a text has that text. -/
theorem textField_of_text {s : String} (h : fields.get? key = some (.text s)) (nesting : Nat) :
    textField nesting fields key = .ok s := by
  rw [textField, h]
  by_cases hs : s = ""
  · rw [hs]
    rfl
  · simp [Value.isTruthy, Value.toText, hs, Except.map]

/-- A priority is read back from its field. -/
theorem priorityField_of_value {priority : Option String}
    (h : fields.get? "priority" = some (match priority with
      | some p => .text p
      | none => .null))
    (hpriority : priority ≠ some "") : priorityField fields = .ok priority := by
  rw [priorityField, h]
  cases priority with
  | none => rfl
  | some p =>
    have hp : p ≠ "" := fun hp => hpriority (congrArg some hp)
    dsimp only
    rw [if_neg hp]

/-- A date that is recorded is a whole day, and so its text is that of the day. -/
theorem dateField_of_dateValue (hdate : ∀ s, date = some s → s.time = none)
    (h : fields.get? name = some (dateValue date)) : dateField fields name key = .ok date := by
  rw [dateField, h]
  cases date with
  | none => rfl
  | some s =>
    obtain ⟨d, time⟩ := s
    obtain rfl : time = none := hdate _ rfl
    have hne : String.ofList d.text ≠ "" := by
      obtain ⟨c, cs, hcons, -⟩ := d.exists_text_eq_cons
      rw [hcons]
      simp
    have htake : d.text.take 10 = d.text := List.take_of_length_le (Nat.le_of_eq d.length_text)
    dsimp only [dateValue, Stamp.textWith]
    split
    case h_3 heq => exact absurd (Value.text.inj (Option.some.inj heq)) hne
    case h_5 t _ heq =>
      rw [← Value.text.inj (Option.some.inj heq), String.toList_ofList, htake, d.ofIso?_text]
      rfl
    case h_6 htext heq => exact (htext _ (Option.some.inj heq).symm).elim
    all_goals next heq => cases heq

/-- A task from a record is read back from its own record. -/
theorem ofRecord_toRecord (h : t.IsRecorded) (nesting : Nat) :
    ofRecord nesting t.toRecord = .ok t := by
  have hpath : pathField (normalizeRecord t.toRecord) = .ok t.path := if_neg h.path
  have hpriority : priorityField (normalizeRecord t.toRecord) = .ok t.priority :=
    priorityField_of_value rfl h.priority
  have hscheduled : dateField (normalizeRecord t.toRecord) "scheduled_date" "scheduledDate" =
      .ok t.scheduled := dateField_of_dateValue h.scheduled rfl
  have hdeadline : dateField (normalizeRecord t.toRecord) "deadline_date" "deadlineDate" =
      .ok t.deadline := dateField_of_dateValue h.deadline rfl
  have hline : lineField (normalizeRecord t.toRecord) = .ok t.line := rfl
  have hrawText : textField nesting (normalizeRecord t.toRecord) "raw_text" = .ok t.rawText :=
    textField_of_text rfl nesting
  have htext : textField nesting (normalizeRecord t.toRecord) "text" = .ok t.text :=
    textField_of_text rfl nesting
  have hstate : textField nesting (normalizeRecord t.toRecord) "state" = .ok t.state :=
    textField_of_text rfl nesting
  have hcompleted : ((normalizeRecord t.toRecord).get? "completed").any Value.isTruthy =
      t.completed := rfl
  simp only [ofRecord, hpath, hpriority, hline, hscheduled, hdeadline, hrawText, htext, hstate,
    hcompleted]
  rfl

end TaskQuery.Task
