import TaskQuery.Proofs.Match.Alternatives
import TaskQuery.Proofs.Query.Branching

/-!
# Matching at the edges of the calendar

A filter that cannot be applied matches nothing in lenient mode.  A bucket that reaches outside the
calendar is no such filter: the task is compared with the bucket only after its name was read, and
what goes wrong there is an error in both modes.  So is a list or an object of a property that has
no text to be compared.

* `Date.IsEdge`: the reference days around which there is such a bucket: all of December 9999, for
  `next month`, and the six days before the first Sunday, for `this week` with weeks from Sunday
  on.
* `Bucket.exists_contains`: around the other days every bucket can be compared with.
* `isGuarded_test`: which errors a test has, case by case.
* `exists_parse_eq_noText`: a value without a text is in the way of some query text.
* `evaluate_ok_or_isEdge`: so in lenient mode every query text has a truth value on every task,
  unless the reference day is one of these or a value has no text, and then there are query texts
  without one.
-/

namespace TaskQuery

open Text Lexer

/-! ## The edges -/

namespace Date

/-- A reference day around which some bucket reaches outside the calendar. -/
def IsEdge (d : Date) (w : WeekStart) : Prop :=
  (d.year = 9999 ∧ d.month = 12) ∨ (w = .sunday ∧ d.year = 1 ∧ d.month = 1 ∧ d.day < 7)

/-- Whether a day lies at an edge of the calendar can be checked. -/
instance (d : Date) (w : WeekStart) : Decidable (d.IsEdge w) := inferInstanceAs (Decidable (_ ∨ _))

variable {d : Date} {w : WeekStart}

/-- All other days lie before December 9999. -/
theorem ordinal_lt_of_not_isEdge (h : ¬d.IsEdge w) : d.ordinal + 30 < maxOrdinal := by
  obtain ⟨-, hy, -, hm, -, -⟩ := d.isDate
  have hfirst : d.ordinal < (⟨9999, 12, 1, by decide⟩ : Date).ordinal := by
    rcases Nat.lt_or_eq_of_le hy with hlt | heq
    · exact ordinal_lt_of_year hlt
    · exact ordinal_lt_of_month heq (Nat.lt_of_le_of_ne hm fun hmonth => h (.inl ⟨heq, hmonth⟩))
  exact Nat.add_lt_add_right hfirst 30

/-- Their week starts in the calendar. -/
theorem daysIntoWeek_lt_ordinal_of_not_isEdge (h : ¬d.IsEdge w) : d.daysIntoWeek w < d.ordinal := by
  have hpos := d.one_le_ordinal
  cases w with
  | monday =>
    rw [daysIntoWeek, weekday]
    omega
  | sunday =>
    have hweek : 7 ≤ d.ordinal := by
      obtain ⟨hy, -, hm, -, -, -⟩ := d.isDate
      have hbefore : (⟨1, 1, 7, by decide⟩ : Date).ordinal ≤ d.ordinal := by
        rcases Nat.lt_or_eq_of_le hy with hlt | hyear
        · exact Nat.le_of_lt (ordinal_lt_of_year hlt)
        rcases Nat.lt_or_eq_of_le hm with hlt | hmonth
        · exact Nat.le_of_lt (ordinal_lt_of_month hyear hlt)
        rcases Nat.lt_or_ge d.day 7 with hlt | hge
        · exact absurd (.inr ⟨rfl, hyear.symm, hmonth.symm, hlt⟩) h
        · rcases Nat.lt_or_eq_of_le hge with hlt | hday
          · exact Nat.le_of_lt (ordinal_lt_of_day hyear hmonth hlt)
          · rw [ordinal, ordinal, ← hyear, ← hmonth, ← hday]
      exact hbefore
    rw [daysIntoWeek, weekday]
    omega

/-- They have a next month. -/
theorem monthIndex_lt_of_not_isEdge (h : ¬d.IsEdge w) : d.monthIndex + 1 < 12 * 9999 := by
  obtain ⟨-, hy, -, hm, -, -⟩ := d.isDate
  have hlast : ¬(d.year = 9999 ∧ d.month = 12) := fun hlast => h (.inl hlast)
  rw [monthIndex]
  omega

end Date

/-- **Around a day that is no edge every bucket can be compared with.** -/
theorem Bucket.exists_contains {today : Date} {w : WeekStart} (h : ¬today.IsEdge w) (b : Bucket)
    (d : Date) : ∃ x, b.contains d today w = .ok x := by
  have hlast := Date.ordinal_lt_of_not_isEdge h
  have hfirst := Date.daysIntoWeek_lt_ordinal_of_not_isEdge h
  cases b with
  | tomorrow =>
    obtain ⟨next, hnext⟩ := (Date.exists_addDays_iff (d := today) (n := 1)).2 ⟨by omega, by omega⟩
    exact ⟨_, by rw [contains, hnext, ok_bind]; rfl⟩
  | thisWeek =>
    obtain ⟨r, hr⟩ := (Date.exists_week_iff (d := today) (w := w)).2 ⟨hfirst, by omega⟩
    exact ⟨_, by rw [contains, hr, ok_bind]; rfl⟩
  | nextWeek =>
    obtain ⟨next, hnext⟩ := (Date.exists_addDays_iff (d := today) (n := 7)).2 ⟨by omega, by omega⟩
    have hordinal := Date.addDays_eq_ok_iff.1 hnext
    have hinto := next.daysIntoWeek_lt w
    obtain ⟨r, hr⟩ := (Date.exists_week_iff (d := next) (w := w)).2 ⟨by omega, by omega⟩
    refine ⟨r.contains d, ?_⟩
    rw [contains, hnext, ok_bind, hr, ok_bind]
    rfl
  | nextMonth =>
    have hmonth := Date.monthIndex_lt_of_not_isEdge h
    obtain ⟨next, hnext⟩ := (Date.exists_addMonths_iff (d := today) (n := 1)).2
      ⟨by omega, by omega⟩
    exact ⟨_, by rw [contains, hnext, ok_bind]; rfl⟩
  | _ => exact ⟨_, rfl⟩

/-- In the last month there is no next month. -/
theorem Bucket.exists_nextMonth_eq_error {today : Date} (h : today.year = 9999 ∧ today.month = 12)
    (d : Date) (w : WeekStart) : ∃ c, nextMonth.contains d today w = .error c := by
  cases hnext : today.addMonths 1 with
  | error c => exact ⟨c, by rw [contains, hnext]; rfl⟩
  | ok next =>
    have hindex := (Date.exists_addMonths_iff.1 ⟨next, hnext⟩).2
    rw [Date.monthIndex, h.1, h.2] at hindex
    omega

/-- The Sunday in front of the first days lies before the calendar. -/
theorem Bucket.exists_thisWeek_eq_error {today : Date}
    (h : today.year = 1 ∧ today.month = 1 ∧ today.day < 7) (d : Date) :
    ∃ c, thisWeek.contains d today .sunday = .error c := by
  obtain ⟨hyear, hmonth, hday⟩ := h
  have hordinal : today.ordinal = today.day := by
    rw [Date.ordinal, hyear, hmonth]
    exact Nat.zero_add _
  cases hweek : today.week .sunday with
  | error c => exact ⟨c, by rw [contains, hweek]; rfl⟩
  | ok r =>
    have hinto := (Date.exists_week_iff.1 ⟨r, hweek⟩).1
    rw [Date.daysIntoWeek, Date.weekday] at hinto
    omega

/-- Away from the edges every filter has an answer. -/
theorem DateFilter.exists_accepts {today : Date} {w : WeekStart} (h : ¬today.IsEdge w)
    (f : DateFilter) (date : Option Date) : ∃ x, f.accepts date today w = .ok x := by
  cases date with
  | none => cases f <;> exact ⟨_, rfl⟩
  | some d =>
    cases f with
    | bucket b => exact Bucket.exists_contains h b d
    | _ => exact ⟨_, rfl⟩

/-! ## The errors of a test -/

namespace Scope

variable {s : Scope} {α β : Type}

/-- One of the values that are found under a key is compared as a text and has none. -/
def Lacks (s : Scope) (key : String) (fault : WriteFault) : Prop :=
  ∃ v ∈ s.valuesUnder key, v.isTextual = true ∧ v.toText s.settings.nesting = .error fault

/-- The errors that a test may have: a filter cannot be applied; at an edge, a day lies outside the
calendar; a property has no text. -/
def MayFail (s : Scope) : MatchError → Prop
  | .filter _ => True
  | .calendar _ => s.today.IsEdge s.settings.weekStart
  | .noText fault => ∃ key, s.Lacks key fault
  | .emptyAnd | .emptyOr => False

/-- All errors of a result are among those that a test may have. -/
def IsGuarded (s : Scope) (r : Except MatchError α) : Prop := ∀ e, r = .error e → s.MayFail e

/-- An answer needs no guard. -/
theorem isGuarded_ok (a : α) : s.IsGuarded (.ok a) := by
  intro e h
  cases h

/-- A filter that cannot be applied is none of the errors that are guarded. -/
theorem isGuarded_filter (fault : FilterFault) :
    s.IsGuarded (.error (.filter fault) : Except MatchError α) := by
  intro e h
  cases h
  trivial

/-- A computation of days that succeeds away from the edges is guarded. -/
theorem isGuarded_ofCalendar {r : Except CalendarError α}
    (h : ¬s.today.IsEdge s.settings.weekStart → ∃ a, r = .ok a) :
    s.IsGuarded (MatchError.ofCalendar r) := by
  intro e he
  cases r with
  | ok a => cases he
  | error c =>
    cases he
    by_contra hedge
    obtain ⟨a, ha⟩ := h hedge
    cases ha

/-- Guarded steps one after the other are guarded. -/
theorem isGuarded_bind {x : Except MatchError α} {f : α → Except MatchError β}
    (hx : s.IsGuarded x) (hf : ∀ a, s.IsGuarded (f a)) : s.IsGuarded (x >>= f) := by
  cases x with
  | error e' =>
    intro e h
    cases h
    exact hx e' rfl
  | ok a => exact hf a

/-- A filter is guarded. -/
theorem isGuarded_accepts (f : DateFilter) (date : Option Date) :
    s.IsGuarded (MatchError.ofCalendar (f.accepts date s.today s.settings.weekStart)) :=
  isGuarded_ofCalendar fun h => f.exists_accepts h date

/-- A date is guarded. -/
theorem isGuarded_matchesDate (value : String) (exact : Bool) (date : Option Stamp) :
    s.IsGuarded (s.matchesDate value exact date) := by
  unfold matchesDate
  split
  · exact isGuarded_filter _
  · exact isGuarded_accepts _ _

/-- A filter on a field is guarded. -/
theorem isGuarded_matchesField (name value : String) (exact : Bool) :
    s.IsGuarded (s.matchesField name value exact) := by
  unfold matchesField
  split
  · exact isGuarded_filter _
  · split
    · exact isGuarded_ok _
    · split
      case h_7 | h_8 => exact isGuarded_matchesDate _ _ _
      all_goals exact isGuarded_ok _

/-- The days that an end of a range stands for can be computed unless the end is a relative day. -/
theorem isGuarded_bound (value : String) (exact : Bool) : s.IsGuarded (s.bound value exact) := by
  unfold bound
  split
  · exact isGuarded_ok _
  · exact isGuarded_ok _
  · refine isGuarded_ofCalendar fun h => ?_
    have hlast := Date.ordinal_lt_of_not_isEdge h
    obtain ⟨p, hp⟩ := Period.exists_ofDate_day (d := s.today) (by omega)
    exact ⟨p.range, by rw [hp, ok_bind]; rfl⟩
  · refine isGuarded_ofCalendar fun h => ?_
    have hlast := Date.ordinal_lt_of_not_isEdge h
    obtain ⟨d, hd⟩ := (Date.exists_addDays_iff (d := s.today) (n := 1)).2 ⟨by omega, by omega⟩
    have hordinal := Date.addDays_eq_ok_iff.1 hd
    obtain ⟨p, hp⟩ := Period.exists_ofDate_day (d := d) (by omega)
    refine ⟨p.range, ?_⟩
    rw [hd, ok_bind, hp, ok_bind]
    rfl
  · exact isGuarded_filter _

/-- A range is guarded. -/
theorem isGuarded_matchesRange (name start stop : String) (startExact stopExact : Bool) :
    s.IsGuarded (s.matchesRange name start stop startExact stopExact) := by
  have hdate : ∀ date : Option Stamp, s.IsGuarded (do
      let first ← s.bound start startExact
      let last ← s.bound stop stopExact
      return date.any fun d => (⟨first.start, last.stop⟩ : DateRange).contains d.date) :=
    fun date => isGuarded_bind (isGuarded_bound _ _) fun first =>
      isGuarded_bind (isGuarded_bound _ _) fun last => isGuarded_ok _
  unfold matchesRange
  dsimp only
  split
  · exact hdate _
  · exact hdate _
  · exact isGuarded_filter _

/-- A property compared as a day is guarded. -/
theorem isGuarded_matchesPropertyDay (wanted : List Char) (actual : Value) :
    s.IsGuarded (s.matchesPropertyDay wanted actual) := by
  unfold matchesPropertyDay
  split
  · exact isGuarded_ok _
  · split
    · exact isGuarded_ok _
    · exact isGuarded_ok _
    · exact isGuarded_accepts _ _

/-- A property is guarded, but for values without a text. -/
theorem isGuarded_matchesProperty (text : String) (exact : Bool) :
    s.IsGuarded (s.matchesProperty text exact) := by
  intro e h
  obtain ⟨wanted, actual, hday⟩ | ⟨v, hv, htextual, fault, hfault, rfl⟩ :=
    day_or_noText_of_matchesProperty h
  · exact isGuarded_matchesPropertyDay wanted actual e hday
  · exact ⟨Leaf.propertyKey text, v, hv, htextual, hfault⟩

/-- **A test has no other errors.** -/
theorem isGuarded_test (l : Leaf) : s.IsGuarded (s.test l) := by
  cases l with
  | term value | phrase value => exact isGuarded_ok _
  | field name value exact => exact isGuarded_matchesField _ _ _
  | range name start stop startExact stopExact => exact isGuarded_matchesRange _ _ _ _ _
  | property text exact => exact isGuarded_matchesProperty _ _

/-! ## Queries -/

/-- In lenient mode a parsed query has a truth value, or a day that it needs lies outside the
calendar, or a value that it needs has no text. -/
theorem ok_or_calendar_or_noText (hs : s.settings.strict = false) {q : Query} (hq : q.IsFilled) :
    (∃ b, s.evaluate q = .ok b) ∨
      ((∃ c, s.evaluate q = .error (.calendar c)) ∧ s.today.IsEdge s.settings.weekStart) ∨
      ∃ key fault, s.Lacks key fault ∧ s.evaluate q = .error (.noText fault) := by
  cases h : s.evaluate q with
  | ok b => exact .inl ⟨b, rfl⟩
  | error e =>
    obtain ⟨l, -, hl⟩ := exists_test_of_evaluate_eq_error hq h
    rw [matchesLeaf, hs] at hl
    -- only an error that is no fault of the filter passes
    have htest : s.test l = .error e ∧ ∀ fault, e ≠ .filter fault := by
      unfold lenient at hl
      split at hl
      · simp at hl
      · next hfault => exact ⟨hl, fun fault he => hfault fault (he ▸ hl)⟩
    have hmay := isGuarded_test l e htest.1
    cases e with
    | filter fault => exact absurd rfl (htest.2 fault)
    | calendar c => exact .inr (.inl ⟨⟨c, rfl⟩, hmay⟩)
    | noText fault =>
      obtain ⟨key, hlacks⟩ := hmay
      exact .inr (.inr ⟨key, fault, hlacks, rfl⟩)
    | emptyAnd | emptyOr => exact hmay.elim

/-- The name of a bucket in quotes, in lower case and with single spaces. -/
theorem readDate?_bucket (s : Scope) {value : String} {b : Bucket} (hquote : '"' ∉ value.toList)
    (hsigma : 'Σ' ∉ value.toList) (hsame : squeeze (lower value.toList) = value.toList)
    (hb : Bucket.ofText? value.toList = some b) : s.readDate? value true = some (.bucket b) := by
  rw [readDate?, dateText, DateFilter.read?_requote_of_not_sigma hsigma,
    DateFilter.readLower?_requote (mt (mem_of_mem_lower (by decide)) hquote), hsame,
    DateFilter.readText?_of_ofText? hb]

/-- A bucket that cannot be compared with is an error in both modes. -/
theorem evaluate_scheduled_bucket {value : String} {b : Bucket} {c : CalendarError} {date : Stamp}
    (hread : s.readDate? value true = some (.bucket b)) (hne : value ≠ "")
    (hdate : s.task.scheduled = some date)
    (hc : b.contains date.date s.today s.settings.weekStart = .error c) (p : Nat) :
    s.evaluate (.leaf (.field "scheduled" value true) p) = .error (.calendar c) := by
  have hfield : s.matchesField "scheduled" value true = .error (.calendar c) := by
    show (if value = "" then _ else s.matchesDate value true s.task.scheduled) = _
    rw [if_neg hne, matchesDate, hread, hdate]
    show MatchError.ofCalendar (b.contains date.date s.today s.settings.weekStart) = _
    rw [hc]
    rfl
  rw [evaluate, matchesLeaf, test, hfield]
  rfl

/-- A text that is a scheduled date and nothing else. -/
theorem parse_scheduled {text value : String} {f v : Token} (hscan : Token.scan text = [f, v])
    (hf : f.kind = .field ∧ f.value = "scheduled") (hv : v.kind.isOperandValue ∧ v.value = value) :
    Query.parse text = .ok (.leaf (.field "scheduled" value v.kind.isQuoted) f.position) := by
  have hname : Text.lowerString f.value = "scheduled" := by
    rw [hf.2]
    decide
  have hread := Expression.Reads.row (.field hf.1 hv.1) .nil
  rw [hname, hv.2, List.append_nil, ← hscan] at hread
  exact Query.parse_eq_ok_iff.2
    ⟨.row (.test (.field "scheduled" value v.kind.isQuoted) f.position) .nil, hread, rfl⟩

/-- At an edge a task with a date has no truth value for one of two query texts. -/
theorem exists_evaluate_eq_calendar (hedge : s.today.IsEdge s.settings.weekStart)
    (hdate : s.task.scheduled.isSome) :
    ∃ text q c, Query.parse text = .ok q ∧ s.evaluate q = .error (.calendar c) := by
  obtain ⟨date, hdate⟩ := Option.isSome_iff_exists.1 hdate
  rcases hedge with hlast | ⟨hsunday, hfirst⟩
  · have hscan : Token.scan "scheduled:\"next month\"" =
        [⟨.field, "scheduled", "scheduled:", 0⟩,
          ⟨.quotedValue, "next month", "\"next month\"", 10⟩] := by decide +kernel
    have hparse := parse_scheduled hscan ⟨rfl, rfl⟩ ⟨rfl, rfl⟩
    have hread := readDate?_bucket s (show '"' ∉ "next month".toList by decide) (by decide)
      (by decide +kernel) (by decide +kernel : Bucket.ofText? "next month".toList = some .nextMonth)
    obtain ⟨c, hc⟩ := Bucket.exists_nextMonth_eq_error hlast date.date s.settings.weekStart
    exact ⟨_, _, c, hparse, evaluate_scheduled_bucket hread (by decide) hdate hc 0⟩
  · have hscan : Token.scan "scheduled:\"this week\"" =
        [⟨.field, "scheduled", "scheduled:", 0⟩,
          ⟨.quotedValue, "this week", "\"this week\"", 10⟩] := by decide +kernel
    have hparse := parse_scheduled hscan ⟨rfl, rfl⟩ ⟨rfl, rfl⟩
    have hread := readDate?_bucket s (show '"' ∉ "this week".toList by decide) (by decide)
      (by decide +kernel) (by decide +kernel : Bucket.ofText? "this week".toList = some .thisWeek)
    obtain ⟨c, hc⟩ := Bucket.exists_thisWeek_eq_error hfirst date.date
    rw [← hsunday] at hc
    exact ⟨_, _, c, hparse, evaluate_scheduled_bucket hread (by decide) hdate hc 0⟩

/-- The texts of some values have a greatest length. -/
theorem exists_length_fold_le (s : Scope) (vs : List Value) :
    ∃ n, ∀ v ∈ vs, ∀ t, v.toText s.settings.nesting = .ok t → (s.fold t).length ≤ n := by
  induction vs with
  | nil => exact ⟨0, by simp⟩
  | cons v vs ih =>
    obtain ⟨n, hn⟩ := ih
    cases htext : v.toText s.settings.nesting with
    | error fault =>
      refine ⟨n, List.forall_mem_cons.2 ⟨fun t ht => ?_, hn⟩⟩
      rw [htext] at ht
      cases ht
    | ok u =>
      refine ⟨max (s.fold u).length n, List.forall_mem_cons.2 ⟨fun t ht => ?_, fun v hv t ht => ?_⟩⟩
      · rw [htext] at ht
        cases ht
        exact Nat.le_max_left _ _
      · exact Nat.le_trans (hn v hv t ht) (Nat.le_max_right _ _)

/-- A row of letters is an alternative, and each quote next to it stays. -/
theorem isAlternative_replicate (n : Nat) :
    IsAlternative (List.replicate (n + 1) 'a') ∧
      trim (List.replicate (n + 1) 'a' ++ ['"']) = List.replicate (n + 1) 'a' ++ ['"'] ∧
      trim ('"' :: List.replicate (n + 1) 'a') = '"' :: List.replicate (n + 1) 'a' := by
  have hmem : ∀ c ∈ List.replicate (n + 1) 'a', c = 'a' := fun c => List.eq_of_mem_replicate
  have hblank : NoBlank (List.replicate (n + 1) 'a') := by
    intro c hc
    rw [hmem c hc]
    decide
  have hquote : NoBlank ['"'] := List.forall_mem_singleton.2 (by decide)
  refine ⟨⟨?_, fun c hc => ?_, ?_⟩, ?_, ?_⟩
  · rw [trim_of_noBlank hblank]
    exact List.cons_ne_nil _ _
  · rw [hmem c hc]
    decide
  · rw [words_of_noBlank hblank (List.cons_ne_nil _ _), List.mem_singleton]
    intro h
    have hO : 'O' ∈ List.replicate (n + 1) 'a' := h ▸ List.mem_cons_self
    exact absurd (hmem _ hO) (by decide)
  · exact trim_of_noBlank (List.forall_mem_append.2 ⟨hblank, hquote⟩)
  · exact trim_of_noBlank (List.forall_mem_cons.2 ⟨hquote _ List.mem_cons_self, hblank⟩)

/-- If the texts that are asked for are not among those of the values, each value is looked at, the
one without a text as well. -/
theorem exists_any_eq_noText {vs : List Value} {ws : List (List Char)} {w : List Char} {v : Value}
    {fault : WriteFault} (hcount : ∀ w ∈ ws, w.count '"' = 1)
    (hother : ∀ w ∈ ws, ∀ v ∈ vs, ∀ t, v.toText s.settings.nesting = .ok t → s.fold t ≠ s.fold w)
    (hw : w ∈ ws) (hv : v ∈ vs) (htextual : v.isTextual = true)
    (hfault : v.toText s.settings.nesting = .error fault) :
    ∃ e, Verdict.any (ws.flatMap fun w => vs.map fun v => s.matchesValue w v true) =
      .error (.noText e) := by
  have hmem : .error (.noText fault) ∈
      ws.flatMap fun w => vs.map fun v => s.matchesValue w v true := by
    refine List.mem_flatMap.2 ⟨w, hw, List.mem_map.2 ⟨v, hv, ?_⟩⟩
    rw [s.matchesValue_of_count (hcount w hw), if_pos htextual]
    exact matchesPropertyText_of_fault hfault
  have hnone : .ok true ∉ ws.flatMap fun w => vs.map fun v => s.matchesValue w v true := by
    intro h
    obtain ⟨w, hw, h⟩ := List.mem_flatMap.1 h
    obtain ⟨v, hv, h⟩ := List.mem_map.1 h
    obtain ⟨-, t, ht, heq⟩ := (s.matchesValue_of_count_iff (hcount w hw) v).1 h
    exact hother w hw v hv t ht heq
  obtain ⟨e, he⟩ := Verdict.exists_any_eq_error hmem hnone
  obtain ⟨w, hw, h⟩ := List.mem_flatMap.1 (Verdict.mem_of_any_eq_error he)
  obtain ⟨v, -, h⟩ := List.mem_map.1 h
  obtain ⟨-, fault, -, rfl⟩ := s.exists_fault_of_matchesValue (hcount w hw) h
  exact ⟨fault, he⟩

/-- A value without a text is in the way of a query text: one that asks for longer texts than all
the other values have. -/
theorem exists_parse_eq_noText {key : List Char} (hkey : IsPart key) {fault : WriteFault}
    (hlacks : s.Lacks (String.ofList key) fault) :
    ∃ text q e, Query.parse text = .ok q ∧ s.evaluate q = .error (.noText e) := by
  obtain ⟨v, hv, htextual, hfault⟩ := hlacks
  obtain ⟨n, hn⟩ := s.exists_length_fold_le (s.valuesUnder (String.ofList key))
  obtain ⟨ha, hend, hstart⟩ := isAlternative_replicate n
  obtain ⟨q, hq, heval⟩ := Query.parse_quotes hkey ha ha
  obtain ⟨hcountEnd, hcountStart⟩ := Query.count_quotes_listed ha ha
  rw [hend, hstart] at heval
  rw [hend] at hcountEnd
  rw [hstart] at hcountStart
  have hlower : IsLower (List.replicate (n + 1) 'a') := by
    intro c hc
    rw [List.eq_of_mem_replicate hc]
    decide
  have hquote : IsLower ['"'] := List.forall_mem_singleton.2 (by decide)
  -- what is asked for is in lower case already, and too long
  have hlong {w : List Char} (hw : IsLower w) (hlength : w.length = n + 2) :
      ∀ v ∈ s.valuesUnder (String.ofList key), ∀ t, v.toText s.settings.nesting = .ok t →
        s.fold t ≠ s.fold w := by
    intro v hv t ht heq
    have hle := hn v hv t ht
    have hfold : s.fold w = w := by
      unfold fold
      split
      · rfl
      · exact lower_of_isLower hw
    rw [heq, hfold, hlength] at hle
    omega
  obtain ⟨e, he⟩ := exists_any_eq_noText
    (List.forall_mem_cons.2 ⟨hcountEnd, List.forall_mem_singleton.2 hcountStart⟩)
    (List.forall_mem_cons.2 ⟨hlong (List.forall_mem_append.2 ⟨hlower, hquote⟩) (by simp),
      List.forall_mem_singleton.2
        (hlong (List.forall_mem_cons.2 ⟨hquote _ List.mem_cons_self, hlower⟩) (by simp))⟩)
    List.mem_cons_self hv htextual hfault
  exact ⟨_, q, e, hq, (heval s).trans he⟩

end Scope

end TaskQuery
