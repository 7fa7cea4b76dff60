import TaskQuery.Match.Query
import TaskQuery.Proofs.DateFilter.Reading

/-!
# Ranges and comparisons

A range of dates can be asked for in three ways: as a range of its two ends, by a comparison with
each of the ends, and, when no end is quoted, by one value with `..` in it.  They look at the same
days, whatever the ends are: dates, months, years, relative days, phrases, or no dates at all.

* `endpoint?` is the period that a text stands for at the end of a range.
* `readDate?_comparison`, `readDate?_range`: how the texts of comparisons and ranges are read.
* `matchesDate_comparison`, `bound_eq_endpoint?`: what comparisons and ranges do with it.
* `matchesLeaf_range`: the three ways agree.

Around the last days of the calendar the period of `tomorrow` has no end, and a range fails there.
-/

namespace TaskQuery

open Text

namespace Scope

variable (s : Scope) {value start stop : String} {exact startExact stopExact : Bool}
  {cmp : Comparison}

/-- The period that a text stands for as the end of a range. -/
def endpoint? (value : String) (exact : Bool) : Option Period :=
  (s.readDate? value exact).bind (DateFilter.operand? s.today)

/-! ## Reading -/

/-- Without quotes a value is read as it stands. -/
theorem readDate?_false (value : String) :
    s.readDate? value false = DateFilter.read? value s.today s.settings.weekStart := by
  rw [readDate?, dateText, DateFilter.requote, if_neg (by decide), String.ofList_toList]

/-- No date filter is spelled with a capital sigma. -/
theorem readDate?_of_sigma (h : 'Σ' ∈ value.toList) : s.readDate? value exact = none :=
  DateFilter.read?_requote_of_sigma h exact

/-- No end of a range is spelled with a capital sigma. -/
theorem endpoint?_of_sigma (h : 'Σ' ∈ value.toList) : s.endpoint? value exact = none := by
  rw [endpoint?, readDate?_of_sigma s h]
  rfl

/-- Otherwise a date filter is read in lower case, quotes and all. -/
theorem readDate?_of_not_sigma (h : 'Σ' ∉ value.toList) (exact : Bool) :
    s.readDate? value exact = DateFilter.readLower?
      (DateFilter.requote exact (lower value.toList)) s.today s.settings.weekStart :=
  DateFilter.read?_requote_of_not_sigma h exact

/-- An operator in front of a text, read apart from it, gives a comparison with its period. -/
theorem readDate?_symbol_append
    (hop : DateFilter.operator? (cmp.symbol.toList ++ trimEnd (squash (lower value.toList))) =
      some (cmp, trimEnd (squash (lower value.toList))))
    (hvalue : '"' ∉ value.toList) (exact : Bool) :
    s.readDate? (cmp.symbol ++ value) exact = (s.endpoint? value exact).map (.comparison cmp) := by
  have htext : (cmp.symbol ++ value).toList = cmp.symbol.toList ++ value.toList :=
    String.toList_append
  by_cases hsigma : 'Σ' ∈ value.toList
  · rw [endpoint?_of_sigma s hsigma, readDate?_of_sigma s (by simp [htext, hsigma])]
    rfl
  · have hsymbol : 'Σ' ∉ cmp.symbol.toList ∧ lower cmp.symbol.toList = cmp.symbol.toList := by
      cases cmp <;> decide
    have hquote : '"' ∉ lower value.toList :=
      fun h => hvalue (mem_of_mem_lower (by decide) h)
    rw [endpoint?, readDate?_of_not_sigma s hsigma, readDate?_of_not_sigma s
      (by simp [htext, hsymbol.1, hsigma]), htext, lower_append hsymbol.1 hsigma, hsymbol.2,
      DateFilter.readLower?_symbol_append hop hquote]

/-- An operator in front of a text gives a comparison with its period. -/
theorem readDate?_comparison
    (hop : ∀ t, DateFilter.operator? (cmp.symbol.toList ++ t) = some (cmp, t))
    (hvalue : '"' ∉ value.toList) (exact : Bool) :
    s.readDate? (cmp.symbol ++ value) exact = (s.endpoint? value exact).map (.comparison cmp) :=
  readDate?_symbol_append s (hop _) hvalue exact

/-- A text without `..` is no range. -/
theorem readDate?_ne_range (hvalue : '"' ∉ value.toList) (hdots : ¬"..".toList <:+: value.toList)
    (exact : Bool) (r : DateRange) : s.readDate? value exact ≠ some (.range r) := by
  by_cases hsigma : 'Σ' ∈ value.toList
  · rw [readDate?_of_sigma s hsigma]
    simp
  · rw [readDate?_of_not_sigma s hsigma]
    exact DateFilter.readLower?_ne_range
      (mt (mem_of_mem_lower (by decide)) hvalue) (not_dots_infix_lower hsigma hdots) r

/-- The days that it bounds a range by are those of its period. -/
theorem bounds?_readDate? (hvalue : '"' ∉ value.toList) (hdots : ¬"..".toList <:+: value.toList)
    (exact : Bool) : (s.readDate? value exact).bind (DateFilter.bounds? s.today) =
      (s.endpoint? value exact).map Period.range := by
  rw [endpoint?]
  cases hread : s.readDate? value exact with
  | none => rfl
  | some f =>
    refine DateFilter.bounds?_eq_map_operand? fun r hr => ?_
    rw [hr] at hread
    exact readDate?_ne_range s hvalue hdots exact r hread

/-- Two texts around `..` give a range from the start of one period to the end of the other. -/
theorem readDate?_range (hstart : '"' ∉ start.toList) (hstop : '"' ∉ stop.toList)
    (hstartDots : ¬"..".toList <:+: start.toList) (hstopDots : ¬"..".toList <:+: stop.toList) :
    s.readDate? (start ++ ".." ++ stop) false =
      (s.endpoint? start false).bind fun first =>
        (s.endpoint? stop false).map fun last => .range ⟨first.start, last.stop⟩ := by
  have hbounds : ∀ {text : String}, '"' ∉ text.toList → ¬"..".toList <:+: text.toList →
      (DateFilter.read? text s.today s.settings.weekStart).bind (DateFilter.bounds? s.today) =
        (s.endpoint? text false).map Period.range := by
    intro text hquote hdots
    rw [← bounds?_readDate? s hquote hdots, readDate?_false]
  rw [readDate?, dateText, DateFilter.read?_range hstart hstop hstartDots, hbounds hstart hstartDots,
    hbounds hstop hstopDots]
  cases s.endpoint? start false with
  | none => rfl
  | some first => cases s.endpoint? stop false <;> rfl

/-! ## Matching -/

/-- A comparison with a text asks for a date that compares so with its period. -/
theorem matchesDate_comparison
    (hop : ∀ t, DateFilter.operator? (cmp.symbol.toList ++ t) = some (cmp, t))
    (hvalue : '"' ∉ value.toList) (exact : Bool) (date : Option Stamp) :
    s.matchesDate (cmp.symbol ++ value) exact date =
      match s.endpoint? value exact with
      | some p => .ok (date.any fun d => cmp.holds d.date p)
      | none => .error (.filter (.notADate (cmp.symbol ++ value))) := by
  rw [matchesDate, readDate?_comparison s hop hvalue]
  cases s.endpoint? value exact with
  | none => rfl
  | some p => cases date <;> rfl

/-- Two days before the end of the calendar the end of a range has the days of its period. -/
theorem bound_eq_endpoint? (hday : s.today.ordinal + 2 ≤ Date.maxOrdinal)
    (hvalue : '"' ∉ value.toList) (hdots : ¬"..".toList <:+: value.toList) (exact : Bool) :
    s.bound value exact =
      match s.endpoint? value exact with
      | some p => .ok p.range
      | none => .error (.filter (.notABound value)) := by
  have hrange := readDate?_ne_range s hvalue hdots exact
  unfold bound endpoint?
  cases hread : s.readDate? value exact with
  | none => rfl
  | some f =>
    cases f with
    | absent | period | comparison => rfl
    | range r => exact absurd hread (hrange r)
    | bucket b =>
      cases b with
      | today =>
        obtain ⟨p, hp⟩ := Period.exists_ofDate_day (d := s.today) (by omega)
        rw [Option.bind_some, DateFilter.operand?, hp, toOption_ok]
        dsimp only
        rw [ok_bind]
        rfl
      | tomorrow =>
        obtain ⟨d, hd⟩ := (Date.exists_addDays_iff (d := s.today) (n := 1)).2
          ⟨by omega, by omega⟩
        have hnext := Date.addDays_eq_ok_iff.1 hd
        obtain ⟨p, hp⟩ := Period.exists_ofDate_day (d := d) (by omega)
        rw [Option.bind_some, DateFilter.operand?, hd, toOption_ok, Option.bind_eq_bind,
          Option.bind_some, hp, toOption_ok]
        dsimp only
        rw [ok_bind, hp, ok_bind]
        rfl
      | _ => rfl

/-- The date that a date field looks at. -/
def dateOf (name : String) : Option Stamp :=
  if name = "scheduled" then s.task.scheduled else s.task.deadline

variable {s} {name : String}

/-- A date field with a value is matched as a date. -/
theorem matchesField_eq_matchesDate (hname : name ∈ dateFields) (hvalue : value ≠ "") :
    s.matchesField name value exact = s.matchesDate value exact (s.dateOf name) := by
  simp only [dateFields, List.mem_cons, List.not_mem_nil, or_false] at hname
  rcases hname with rfl | rfl
  · show (if value = "" then _ else _) = _
    rw [if_neg hvalue]
    rfl
  · show (if value = "" then _ else _) = _
    rw [if_neg hvalue]
    rfl

/-- The days that a range of two ends looks for, when both are ends of ranges. -/
def isBetween (s : Scope) (name start stop : String) (startExact stopExact : Bool) : Bool :=
  (s.endpoint? start startExact).any fun first => (s.endpoint? stop stopExact).any fun last =>
    (s.dateOf name).any fun d => (⟨first.start, last.stop⟩ : DateRange).contains d.date

/-- In lenient mode a comparison with a text matches when the text stands for a period and the date
compares so with it. -/
theorem matchesLeaf_comparison (cmp : Comparison) (hname : name ∈ dateFields)
    (hs : s.settings.strict = false)
    (hop : ∀ t, DateFilter.operator? (cmp.symbol.toList ++ t) = some (cmp, t))
    (hvalue : '"' ∉ value.toList) (exact : Bool) :
    s.matchesLeaf (.field name (cmp.symbol ++ value) exact) =
      .ok ((s.endpoint? value exact).any fun p =>
        (s.dateOf name).any fun d => cmp.holds d.date p) := by
  have hne : cmp.symbol ++ value ≠ "" := by
    intro h
    have hnil := congrArg String.toList h
    rw [String.toList_append] at hnil
    cases cmp <;> simp [Comparison.symbol] at hnil
  rw [matchesLeaf, hs, test, matchesField_eq_matchesDate hname hne,
    matchesDate_comparison s hop hvalue]
  cases s.endpoint? value exact <;> rfl

/-- In lenient mode a range matches when both of its ends stand for periods and the date lies
between. -/
theorem matchesLeaf_range_eq (hname : name ∈ dateFields) (hs : s.settings.strict = false)
    (hday : s.today.ordinal + 2 ≤ Date.maxOrdinal)
    (hstart : '"' ∉ start.toList) (hstop : '"' ∉ stop.toList)
    (hstartDots : ¬"..".toList <:+: start.toList) (hstopDots : ¬"..".toList <:+: stop.toList) :
    s.matchesLeaf (.range name start stop startExact stopExact) =
      .ok (s.isBetween name start stop startExact stopExact) := by
  have hrange : s.matchesRange name start stop startExact stopExact = (do
      let first ← s.bound start startExact
      let last ← s.bound stop stopExact
      return (s.dateOf name).any fun d =>
        (⟨first.start, last.stop⟩ : DateRange).contains d.date) := by
    simp only [dateFields, List.mem_cons, List.not_mem_nil, or_false] at hname
    rcases hname with rfl | rfl <;> rfl
  rw [matchesLeaf, hs, test, hrange, bound_eq_endpoint? s hday hstart hstartDots,
    bound_eq_endpoint? s hday hstop hstopDots, isBetween]
  cases s.endpoint? start startExact with
  | none => rfl
  | some first => cases s.endpoint? stop stopExact <;> rfl

/-- So does a value with `..` in it. -/
theorem matchesLeaf_dots (hname : name ∈ dateFields) (hs : s.settings.strict = false)
    (hstart : '"' ∉ start.toList) (hstop : '"' ∉ stop.toList)
    (hstartDots : ¬"..".toList <:+: start.toList) (hstopDots : ¬"..".toList <:+: stop.toList) :
    s.matchesLeaf (.field name (start ++ ".." ++ stop) false) =
      .ok (s.isBetween name start stop false false) := by
  have hne : start ++ ".." ++ stop ≠ "" := by
    intro h
    have hnil := congrArg String.toList h
    rw [String.toList_append, String.toList_append] at hnil
    simp at hnil
  rw [matchesLeaf, hs, test, matchesField_eq_matchesDate hname hne, matchesDate,
    readDate?_range s hstart hstop hstartDots hstopDots, isBetween]
  cases s.endpoint? start false with
  | none => rfl
  | some first =>
    cases s.endpoint? stop false with
    | none => rfl
    | some last => cases s.dateOf name <;> rfl

/-- **A range matches exactly when the comparisons with its ends do**, and a value with `..` in it
matches exactly when the range of the two texts around it does. -/
theorem matchesLeaf_range (hname : name ∈ dateFields) (hs : s.settings.strict = false)
    (hday : s.today ≤ ⟨9999, 12, 29, by decide⟩) (hstart : '"' ∉ start.toList)
    (hstop : '"' ∉ stop.toList) (hstartDots : ¬"..".toList <:+: start.toList)
    (hstopDots : ¬"..".toList <:+: stop.toList) (startExact stopExact : Bool) :
    (∃ since upTo : Bool,
        s.matchesLeaf (.field name (">=" ++ start) startExact) = .ok since ∧
        s.matchesLeaf (.field name ("<=" ++ stop) stopExact) = .ok upTo ∧
        s.matchesLeaf (.range name start stop startExact stopExact) = .ok (since && upTo)) ∧
      s.matchesLeaf (.field name (start ++ ".." ++ stop) false) =
        s.matchesLeaf (.range name start stop false false) := by
  have hend : s.today.ordinal + 2 ≤ Date.maxOrdinal := Nat.add_le_add_right hday 2
  constructor
  · refine ⟨_, _, matchesLeaf_comparison .notBefore hname hs (fun _ => rfl) hstart _,
      matchesLeaf_comparison .notAfter hname hs (fun _ => rfl) hstop _, ?_⟩
    rw [matchesLeaf_range_eq hname hs hend hstart hstop hstartDots hstopDots, isBetween]
    cases s.endpoint? start startExact with
    | none => rfl
    | some first =>
      cases s.endpoint? stop stopExact with
      | none => simp
      | some last => cases s.dateOf name <;> rfl
  · rw [matchesLeaf_dots hname hs hstart hstop hstartDots hstopDots,
      matchesLeaf_range_eq hname hs hend hstart hstop hstartDots hstopDots]

/-- From January 2024 up to `tomorrow`, in the three ways. -/
theorem matchesLeaf_range_tomorrow :
    let s : Scope :=
      { task := { path := "a.md", scheduled := some (.day ⟨2024, 1, 11, by decide⟩) }
        caseSensitive := false, settings := {}, properties := []
        clock := ⟨2024, 1, 10, by decide⟩ }
    s.matchesLeaf (.field "scheduled" (">=" ++ "2024-01") false) = .ok true ∧
      s.matchesLeaf (.field "scheduled" ("<=" ++ "Tomorrow") true) = .ok true ∧
      s.matchesLeaf (.range "scheduled" "2024-01" "Tomorrow" false true) = .ok true ∧
      s.matchesLeaf (.field "scheduled" ("2024-01" ++ ".." ++ "Tomorrow") false) = .ok true := by
  intro s
  have hquoted : s.matchesLeaf (.range "scheduled" "2024-01" "Tomorrow" false true) = .ok true := by
    decide +kernel
  have hplain : s.matchesLeaf (.range "scheduled" "2024-01" "Tomorrow" false false) = .ok true := by
    decide +kernel
  obtain ⟨⟨since, upTo, hsince, hupTo, hboth⟩, hdots⟩ :=
    matchesLeaf_range (show "scheduled" ∈ dateFields by decide)
      (show s.settings.strict = false from rfl) (by decide)
      (show '"' ∉ "2024-01".toList by decide) (show '"' ∉ "Tomorrow".toList by decide)
      (by decide) (by decide) false true
  rw [hquoted, Except.ok.injEq, eq_comm, Bool.and_eq_true] at hboth
  obtain ⟨rfl, rfl⟩ := hboth
  exact ⟨hsince, hupTo, hquoted, hdots.trans hplain⟩

end Scope

end TaskQuery
