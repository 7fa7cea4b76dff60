import TaskQuery.DateFilter.Instant
import TaskQuery.Proofs.Calendar.Months

/-!
# Days and instants

What a time of day changes.  Stamps of one kind, days or instants, are ordered by their seconds,
and a period of one kind has the laws that periods of days have.  A day and an instant have no
order: then every comparison fails, and no bucket holds.  Where there are only days, everything is
as it is for days.

* `Comparison.holdsFor_trichotomy`: a stamp lies before a period, in it or after it.
* `Comparison.exists_holdsFor_iff`: between a day and an instant there is no answer.
* `StampRange.isProper_period_iff`, `StampRange.isSome_time_start`: which periods around a stamp are
  of one kind, and of which.
* `Bucket.containsStamp_instant`: the buckets around an instant that hold a day.
* `Phrase.resolveStamp?_eq_some_iff`: what a phrase names, and when it keeps the time.
* `Comparison.holdsFor_day`, `StampRange.period_day`, `Phrase.resolveStamp?_day`: days only.
-/

namespace TaskQuery

/-! ## The order of stamps -/

namespace Stamp

variable {a b : Stamp} {d : Date} {time : TimeOfDay}

/-- Both are days, or both are instants. -/
def IsAlike (a b : Stamp) : Prop := a.time.isSome = b.time.isSome

/-- A day and an instant are of two kinds. -/
theorem not_isAlike_instant (d e : Date) (time : TimeOfDay) : ¬(day d).IsAlike ⟨e, some time⟩ :=
  Bool.noConfusion

/-- A day is no instant. -/
theorem day_ne_instant (d e : Date) (time : TimeOfDay) : day d ≠ ⟨e, some time⟩ := by
  rintro ⟨⟩

/-- Days after an instant there is an instant. -/
theorem exists_eq_instant_of_addDays {n : Int} {next : Stamp}
    (h : StampError.ofCalendar (addDays ⟨d, some time⟩ n) = .ok next) :
    ∃ e, next = ⟨e, some time⟩ := by
  obtain ⟨e, -, he⟩ := bind_eq_ok.1 (mapError_eq_ok.1 h)
  exact ⟨e, (Except.ok.inj he).symm⟩

/-- Stamps of one kind differ by their seconds. -/
theorem secondsAfter_eq (h : a.IsAlike b) :
    a.secondsAfter b = .ok ((a.seconds : Int) - b.seconds) :=
  if_pos h

/-- A day and an instant do not differ by any seconds. -/
theorem secondsAfter_of_not_isAlike (h : ¬a.IsAlike b) : a.secondsAfter b = .error .unordered :=
  if_neg h

/-- Stamps of one kind are ordered by their seconds. -/
theorem isBefore_eq (h : a.IsAlike b) :
    a.isBefore b = .ok (decide (a.seconds < b.seconds)) := by
  rw [isBefore, secondsAfter_eq h]
  exact congrArg Except.ok (decide_eq_decide.2 (by omega))

/-- Stamps of one kind are ordered by their seconds, also where they may be equal. -/
theorem isUpTo_eq (h : a.IsAlike b) :
    a.isUpTo b = .ok (decide (a.seconds ≤ b.seconds)) := by
  rw [isUpTo, secondsAfter_eq h]
  exact congrArg Except.ok (decide_eq_decide.2 (by omega))

/-- A day comes neither before an instant nor after it. -/
theorem isBefore_of_not_isAlike (h : ¬a.IsAlike b) : a.isBefore b = .error .unordered := by
  rw [isBefore, secondsAfter_of_not_isAlike h]
  rfl

/-- A day comes neither up to an instant nor from it on. -/
theorem isUpTo_of_not_isAlike (h : ¬a.IsAlike b) : a.isUpTo b = .error .unordered := by
  rw [isUpTo, secondsAfter_of_not_isAlike h]
  rfl

/-- At one time of day, stamps are ordered as their days are. -/
theorem seconds_lt_iff (d e : Date) (time : Option TimeOfDay) :
    seconds ⟨d, time⟩ < seconds ⟨e, time⟩ ↔ d < e := by
  show _ ↔ d.ordinal < e.ordinal
  simp only [seconds]
  omega

end Stamp

/-! ## Periods around stamps -/

namespace StampRange

variable {r : StampRange} {s reference : Stamp} {precision : Precision}

/-- A range of stamps of one kind that is not empty. -/
structure IsProper (r : StampRange) : Prop where
  /-- The ends are of one kind. -/
  isAlike : r.start.IsAlike r.stop
  /-- The range is not empty. -/
  lt : r.start.seconds < r.stop.seconds

/-- A period begins with a stamp of the kind of its reference, but for a year: that begins with a
day. -/
theorem isSome_time_start (h : period precision reference = .ok r) :
    r.start.time.isSome = (decide (precision ≠ .year) && reference.time.isSome) := by
  rw [period] at h
  cases hstop : precision.stopOf reference.date with
  | error e => rw [hstop] at h; cases h
  | ok stop =>
    rw [hstop] at h
    obtain rfl := Except.ok.inj h
    cases precision <;> rfl

/-- **The period around a stamp** is of one kind and not empty, unless it is the month of an
instant: that begins with an instant and ends with a day. -/
theorem isProper_period_iff (h : period precision reference = .ok r) :
    r.IsProper ↔ precision ≠ .month ∨ reference.time = none := by
  rw [period] at h
  cases hstop : precision.stopOf reference.date with
  | error e => rw [hstop] at h; cases h
  | ok stop =>
    have hlt : precision.startOf reference.date < stop :=
      Period.start_lt_stop ⟨reference.date, precision, stop, hstop⟩
    rw [hstop] at h
    obtain rfl := Except.ok.inj h
    cases precision with
    | day =>
      refine ⟨fun _ => .inl (by decide), fun _ => ⟨rfl, ?_⟩⟩
      exact (Stamp.seconds_lt_iff _ _ reference.time).2 hlt
    | year =>
      refine ⟨fun _ => .inl (by decide), fun _ => ⟨rfl, ?_⟩⟩
      exact (Stamp.seconds_lt_iff _ _ none).2 hlt
    | month =>
      constructor
      · rintro ⟨halike, -⟩
        exact .inr (Option.isNone_iff_eq_none.1 (Option.isSome_eq_false_iff.1 halike))
      · rintro (hne | hday)
        · exact absurd rfl hne
        · refine ⟨congrArg Option.isSome hday, ?_⟩
          show Stamp.seconds ⟨reference.date.firstOfMonth, reference.time⟩ < _
          rw [hday]
          exact (Stamp.seconds_lt_iff _ _ none).2 hlt

/-- What a range of one kind holds, of stamps of that kind. -/
theorem contains_eq (hr : r.IsProper) (hs : r.start.IsAlike s) :
    r.contains s =
      .ok (decide (r.start.seconds ≤ s.seconds) && decide (s.seconds < r.stop.seconds)) := by
  have hstop : s.IsAlike r.stop := hs.symm.trans hr.isAlike
  rw [contains, Stamp.isUpTo_eq hs, Stamp.isBefore_eq hstop]
  by_cases h : r.start.seconds ≤ s.seconds
  · simp [h, bind, Except.bind]
  · simp [h, bind, Except.bind, pure, Except.pure]

/-- The week around an instant holds no day. -/
theorem week_instant_contains_ne_true (d e : Date) (time : TimeOfDay) (weekStart : WeekStart) :
    (do (← StampError.ofCalendar (week ⟨e, some time⟩ weekStart)).contains (.day d)) ≠
      .ok true := by
  intro h
  obtain ⟨r, hr, hcontains⟩ := bind_eq_ok.1 h
  obtain ⟨days, -, hr⟩ := bind_eq_ok.1 (mapError_eq_ok.1 hr)
  obtain rfl := Except.ok.inj hr
  have hstart : ¬Stamp.IsAlike ⟨days.start, some time⟩ (Stamp.day d) :=
    fun h => Stamp.not_isAlike_instant d days.start time h.symm
  rw [contains, Stamp.isUpTo_of_not_isAlike hstart] at hcontains
  cases hcontains

end StampRange

namespace Comparison

variable {r : StampRange} {s : Stamp}

/-- **Every stamp lies before a period of its kind, in it or after it**, and in no two of these
places. -/
theorem holdsFor_trichotomy (hr : r.IsProper) (hs : r.start.IsAlike s) :
    ∃ earlier inside later : Bool,
      before.holdsFor s r = .ok earlier ∧ r.contains s = .ok inside ∧
      after.holdsFor s r = .ok later ∧ [earlier, inside, later].count true = 1 ∧
      notAfter.holdsFor s r = .ok (earlier || inside) ∧
      notBefore.holdsFor s r = .ok (later || inside) := by
  have hlt := hr.lt
  have hstart : s.IsAlike r.start := hs.symm
  have hstop : s.IsAlike r.stop := hs.symm.trans hr.isAlike
  refine ⟨_, _, _, Stamp.isBefore_eq hstart, StampRange.contains_eq hr hs,
    Stamp.isUpTo_eq hstop.symm, ?_, (Stamp.isBefore_eq hstop).trans ?_,
    (Stamp.isUpTo_eq hs).trans ?_⟩
  · rcases Nat.lt_or_ge s.seconds r.start.seconds with h | h
    · have hstop : ¬r.stop.seconds ≤ s.seconds := by omega
      simp [h, Nat.not_le_of_lt h, hstop]
    · rcases Nat.lt_or_ge s.seconds r.stop.seconds with h' | h'
      · simp [h, Nat.not_lt_of_le h, h', Nat.not_le_of_lt h']
      · simp [h, Nat.not_lt_of_le h, h', Nat.not_lt_of_le h']
  · rw [← Bool.decide_and, ← Bool.decide_or]
    exact congrArg Except.ok (decide_eq_decide.2 (by omega))
  · rw [← Bool.decide_and, ← Bool.decide_or]
    exact congrArg Except.ok (decide_eq_decide.2 (by omega))

/-- The end of a period that a comparison looks at. -/
def edge (c : Comparison) (r : StampRange) : Stamp :=
  match c with
  | after | notAfter => r.stop
  | notBefore | before => r.start

/-- **A comparison has an answer exactly between stamps of one kind**: it is refused between a day
and the end that is an instant, or an instant and the end that is a day. -/
theorem exists_holdsFor_iff (c : Comparison) (s : Stamp) (r : StampRange) :
    (∃ b, c.holdsFor s r = .ok b) ↔ s.IsAlike (c.edge r) := by
  constructor
  · rintro ⟨b, hb⟩
    refine Classical.byContradiction fun hne => ?_
    have hne' : ¬(c.edge r).IsAlike s := fun h => hne h.symm
    cases c with
    | after => exact nomatch hb.symm.trans (Stamp.isUpTo_of_not_isAlike hne')
    | notBefore => exact nomatch hb.symm.trans (Stamp.isUpTo_of_not_isAlike hne')
    | before => exact nomatch hb.symm.trans (Stamp.isBefore_of_not_isAlike hne)
    | notAfter => exact nomatch hb.symm.trans (Stamp.isBefore_of_not_isAlike hne)
  · intro h
    cases c with
    | after => exact ⟨_, Stamp.isUpTo_eq h.symm⟩
    | notBefore => exact ⟨_, Stamp.isUpTo_eq h.symm⟩
    | before => exact ⟨_, Stamp.isBefore_eq h⟩
    | notAfter => exact ⟨_, Stamp.isBefore_eq h⟩

/-- Between days a comparison is that of the days. -/
theorem holdsFor_day (c : Comparison) (d : Date) (p : Period) :
    c.holdsFor (.day d) ⟨.day p.start, .day p.stop⟩ = .ok (c.holds d p) := by
  cases c with
  | after => exact Stamp.isUpTo_day p.stop d
  | notBefore => exact Stamp.isUpTo_day p.start d
  | before => exact Stamp.isBefore_day d p.start
  | notAfter => exact Stamp.isBefore_day d p.stop

/-- The operator of a comparison is read as it is written, and nothing else is. -/
theorem ofSymbol?_eq_some_iff {symbol : String} {c : Comparison} :
    ofSymbol? symbol = some c ↔ symbol = c.symbol := by
  constructor
  · intro h
    unfold ofSymbol? at h
    split at h <;> first | cases h; rfl | cases h
  · rintro rfl
    cases c <;> rfl

end Comparison

/-- The period around a day is that of the calendar. -/
theorem StampRange.period_day (precision : Precision) (d : Date) :
    period precision (.day d) =
      (Period.ofDate precision d).map fun p => ⟨.day p.start, .day p.stop⟩ := by
  rw [period]
  cases hstop : precision.stopOf d with
  | error e =>
    rw [Period.ofDate_eq_error hstop]
    show (precision.stopOf d >>= _) = _
    rw [hstop]
    rfl
  | ok stop =>
    rw [Period.ofDate_eq_ok hstop]
    show (precision.stopOf d >>= _) = _
    rw [hstop]
    cases precision <;> rfl

/-! ## Buckets around instants -/

namespace Bucket

variable {b : Bucket} {d today : Date} {time : TimeOfDay} {weekStart : WeekStart}

/-- Whether the bucket looks at nothing but months. -/
def isOfMonths : Bucket → Bool
  | thisMonth | nextMonth => true
  | _ => false

/-- A bucket that looks at months does not see a time. -/
theorem containsStamp_of_isOfMonths (hb : b.isOfMonths = true) (d : Date) (reference : Stamp) :
    b.containsStamp (.day d) reference weekStart =
      b.containsStamp (.day d) (.day reference.date) weekStart := by
  cases b with
  | thisMonth => rfl
  | nextMonth => rfl
  | _ => cases hb

/-- **No other bucket around an instant holds a day**: it has no answer, or the answer is no. -/
theorem containsStamp_instant (hb : b.isOfMonths = false) :
    b.containsStamp (.day d) ⟨today, some time⟩ weekStart ≠ .ok true := by
  have hkind := Stamp.not_isAlike_instant d today time
  cases b with
  | overdue =>
    rw [containsStamp, Stamp.isBefore_of_not_isAlike hkind]
    rintro ⟨⟩
  | due =>
    rw [containsStamp, Stamp.isUpTo_of_not_isAlike hkind]
    rintro ⟨⟩
  | today =>
    intro h
    exact Stamp.day_ne_instant d today time (of_decide_eq_true (Except.ok.inj h))
  | tomorrow =>
    intro h
    obtain ⟨next, hnext, h⟩ := bind_eq_ok.1 h
    obtain ⟨e, rfl⟩ := Stamp.exists_eq_instant_of_addDays hnext
    exact Stamp.day_ne_instant d e time (of_decide_eq_true (Except.ok.inj h))
  | thisWeek => exact StampRange.week_instant_contains_ne_true d today time weekStart
  | nextWeek =>
    intro h
    obtain ⟨next, hnext, h⟩ := bind_eq_ok.1 h
    obtain ⟨e, rfl⟩ := Stamp.exists_eq_instant_of_addDays hnext
    exact StampRange.week_instant_contains_ne_true d e time weekStart h
  | thisMonth => cases hb
  | nextMonth => cases hb
  | nextDays n =>
    rw [containsStamp, Stamp.withinDays, Stamp.secondsAfter_of_not_isAlike hkind]
    rintro ⟨⟩

end Bucket

/-! ## Phrases -/

namespace Phrase

variable {text : String} {reference : Stamp} {weekStart : WeekStart} {s : Stamp}

/-- **A phrase names the day that it names without a time, at the time of the reference**, unless
it names the end of a month. -/
theorem resolveStamp?_eq_some_iff :
    resolveStamp? text reference weekStart = some s ↔
      ∃ p phrase, resolve? text reference.date weekStart = some p ∧
        ofWords? (Text.words (Text.lower text.toList)) = some phrase ∧
        s = ⟨p.date, if phrase = monthEdge .last then none else reference.time⟩ := by
  have hkeeps (phrase : Phrase) : (if phrase.keepsTime then reference.time else none) =
      if phrase = monthEdge .last then none else reference.time := by
    cases phrase with
    | monthEdge edge => cases edge <;> rfl
    | _ => rfl
  unfold resolveStamp?
  simp only [Option.bind_eq_bind, Option.bind_eq_some_iff, Option.pure_def, Option.some.injEq, hkeeps]
  constructor
  · rintro ⟨phrase, hphrase, p, hp, rfl⟩
    exact ⟨p, phrase, hp, hphrase, rfl⟩
  · rintro ⟨p, phrase, hp, hphrase, rfl⟩
    exact ⟨phrase, hphrase, p, hp, rfl⟩

/-- Around a day a phrase names a day. -/
theorem resolveStamp?_day (text : String) (today : Date) (weekStart : WeekStart) :
    resolveStamp? text (.day today) weekStart =
      (resolve? text today weekStart).map fun p => .day p.date := by
  have htime (phrase : Phrase) :
      (if phrase = monthEdge .last then none else (Stamp.day today).time) = none := by
    split <;> rfl
  refine Option.ext fun s => ?_
  rw [resolveStamp?_eq_some_iff, Option.map_eq_some_iff]
  constructor
  · rintro ⟨p, phrase, hp, -, rfl⟩
    rw [htime]
    exact ⟨p, hp, rfl⟩
  · rintro ⟨p, hp, rfl⟩
    obtain ⟨phrase, hphrase, -⟩ := Option.bind_eq_some_iff.1 hp
    refine ⟨p, phrase, hp, hphrase, ?_⟩
    rw [htime]
    rfl

end Phrase

end TaskQuery
