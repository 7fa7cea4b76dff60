import TaskQuery.DateFilter.Phrase
import TaskQuery.Proofs.Calendar.Months
import TaskQuery.Proofs.Calendar.Weekdays
import TaskQuery.Proofs.Text.Words

/-!
# The days that phrases name

A weekday of this, the next or the last week, and the ends of a week or month.

* `Occurrence.Window`: the seven days in which an occurrence of a weekday is looked for.
* `exists_weekday_eq_ok`, `exists_weekEdge_eq_ok`, `exists_monthEdge_eq_ok`: the phrases name one of
  these days, or the first or last day of the week or month.
* `namesOnly`: so do their words in any letter case and spacing.
-/

namespace TaskQuery

open Text

/-! ## Occurrences and edges -/

namespace Occurrence

/-- The occurrence as it is written. -/
def name : Occurrence → String
  | next => "next"
  | this => "this"
  | last => "last"

/-- The day is one of those in which the occurrence is looked for: the seven days after `today`,
the week that begins on `first`, or the seven days before `today`. -/
def Window (which : Occurrence) (today first d : Date) : Prop :=
  match which with
  | next => today < d ∧ d.ordinal ≤ today.ordinal + 7
  | this => first ≤ d ∧ d.ordinal < first.ordinal + 7
  | last => today.ordinal ≤ d.ordinal + 7 ∧ d < today

/-- These are seven days in a row. -/
theorem exists_window_iff (which : Occurrence) (today first : Date) (h : 7 ≤ today.ordinal) :
    ∃ n, ∀ d, which.Window today first d ↔ n ≤ d.ordinal ∧ d.ordinal < n + 7 := by
  cases which with
  | next =>
    refine ⟨today.ordinal + 1, fun d => ?_⟩
    show today.ordinal < d.ordinal ∧ _ ↔ _
    omega
  | this => exact ⟨first.ordinal, fun d => Iff.rfl⟩
  | last =>
    refine ⟨today.ordinal - 7, fun d => ?_⟩
    show _ ∧ d.ordinal < today.ordinal ↔ _
    omega

/-- The day of a weekday phrase is at most a week away. -/
theorem ordinal_le_of_window {which : Occurrence} {today first d : Date} (hfirst : first ≤ today)
    (h : which.Window today first d) : d.ordinal ≤ today.ordinal + 7 := by
  have hfirst : first.ordinal ≤ today.ordinal := hfirst
  cases which with
  | next => exact h.2
  | this =>
    have hlt : d.ordinal < first.ordinal + 7 := h.2
    omega
  | last =>
    have hlt : d.ordinal < today.ordinal := h.2
    omega

end Occurrence

namespace Edge

/-- The edge as it is written. -/
def name : Edge → String
  | first => "start"
  | last => "end"

/-- The day is the first or the last one of the days. -/
def IsEdgeOf (edge : Edge) (days : Set Date) (d : Date) : Prop :=
  match edge with
  | first => IsLeast days d
  | last => IsGreatest days d

/-- The edge of a set of days is one of them. -/
theorem mem_of_isEdgeOf {edge : Edge} {days : Set Date} {d : Date} (h : edge.IsEdgeOf days d) :
    d ∈ days := by
  cases edge with
  | first => exact h.1
  | last => exact h.1

/-- There is one such day. -/
theorem eq_of_isEdgeOf {edge : Edge} {days : Set Date} {d e : Date} (hd : edge.IsEdgeOf days d)
    (he : edge.IsEdgeOf days e) : d = e := by
  cases edge with
  | first => exact Date.le_antisymm (hd.2 he.1) (he.2 hd.1)
  | last => exact Date.le_antisymm (he.2 hd.1) (hd.2 he.1)

end Edge

namespace Phrase

variable {today : Date} {w : WeekStart} {week : DateRange} {target : Nat} {which : Occurrence}
  {edge : Edge} {name : String}

/-! ## The days -/

/-- A weekday is found in its window. -/
theorem exists_weekday_eq_ok (hafter : 365 < today.ordinal)
    (hbefore : today.ordinal + 365 ≤ Date.maxOrdinal) (hweek : today.week w = .ok week)
    (htarget : target < 7) (which : Occurrence) :
    ∃ d, (weekday which target).day today w = .ok d ∧ which.Window today week.start d ∧
      d.weekday = target := by
  cases which with
  | next =>
    obtain ⟨d, hd⟩ := (Date.exists_addDays_iff (d := today)
      (n := if (7 + target - today.weekday) % 7 = 0 then (7 : Int)
        else ((7 + target - today.weekday) % 7 : Nat))).2 (by omega)
    have hordinal := Date.addDays_eq_ok_iff.1 hd
    refine ⟨d, by rw [day, hd], ⟨?_, ?_⟩, ?_⟩
    · show today.ordinal < d.ordinal
      omega
    · omega
    · rw [Date.weekday] at hordinal ⊢
      omega
  | last =>
    obtain ⟨d, hd⟩ := (Date.exists_addDays_iff (d := today)
      (n := -(if (7 + today.weekday - target) % 7 = 0 then (7 : Int)
        else ((7 + today.weekday - target) % 7 : Nat)))).2 (by omega)
    have hordinal := Date.addDays_eq_ok_iff.1 hd
    refine ⟨d, by rw [day, hd], ⟨?_, ?_⟩, ?_⟩
    · omega
    · show d.ordinal < today.ordinal
      omega
    · rw [Date.weekday] at hordinal ⊢
      omega
  | this =>
    obtain ⟨hstart, -⟩ := Date.week_eq_ok_iff.1 hweek
    have hpassed := today.daysIntoWeek_lt w
    obtain ⟨d, hd⟩ := (Date.exists_addDays_iff (d := week.start)
      (n := ((7 + target - week.start.weekday) % 7 : Nat))).2 (by omega)
    have hordinal := Date.addDays_eq_ok_iff.1 hd
    refine ⟨d, ?_, ⟨?_, ?_⟩, ?_⟩
    · rw [day, hweek, ok_bind, hd]
    · show week.start.ordinal ≤ d.ordinal
      omega
    · omega
    · rw [Date.weekday] at hordinal ⊢
      omega

/-- The edges of the week are its first and last day. -/
theorem exists_weekEdge_eq_ok (hweek : today.week w = .ok week)
    (hstop : week.stop.ordinal = week.start.ordinal + 7) (edge : Edge) :
    ∃ d, (weekEdge edge).day today w = .ok d ∧ edge.IsEdgeOf {e | week.contains e = true} d := by
  have hcontains : ∀ e : Date, week.contains e = true ↔
      week.start.ordinal ≤ e.ordinal ∧ e.ordinal < week.start.ordinal + 7 := by
    intro e
    rw [Date.contains_week hstop, decide_eq_true_iff]
  cases edge with
  | first =>
    refine ⟨week.start, ?_, ?_, ?_⟩
    · rw [day, hweek]
      rfl
    · exact (hcontains _).2 (by omega)
    · intro e he
      exact ((hcontains e).1 he).1
  | last =>
    have hmax := week.stop.ordinal_le_maxOrdinal
    have hpos := week.start.one_le_ordinal
    obtain ⟨d, hd⟩ := (Date.exists_addDays_iff (d := week.stop) (n := -1)).2 (by omega)
    have hordinal := Date.addDays_eq_ok_iff.1 hd
    refine ⟨d, ?_, ?_, ?_⟩
    · rw [day, hweek, ok_bind, hd]
    · exact (hcontains d).2 (by omega)
    · intro e he
      have he := (hcontains e).1 he
      show e.ordinal ≤ d.ordinal
      omega

/-- The edges of the month are its first and last day. -/
theorem exists_monthEdge_eq_ok (h : today.monthIndex + 1 < 12 * 9999) (edge : Edge) :
    ∃ d, (monthEdge edge).day today w = .ok d ∧
      edge.IsEdgeOf {e | e.sameMonth today = true} d := by
  cases edge with
  | first => exact ⟨today.firstOfMonth, rfl, today.isLeast_firstOfMonth⟩
  | last => exact Date.exists_endOfMonth_eq_ok h

/-! ## The words -/

/-- The text consists of the words, in any letter case and with any blanks between and around
them. -/
def Spells (text : String) (ws : List String) : Prop :=
  (words text.toList).map lower = ws.map String.toList

/-- Whether a text spells words can be checked. -/
instance (text : String) (ws : List String) : Decidable (Spells text ws) :=
  inferInstanceAs (Decidable (_ = _))

/-- A word as it stands in a phrase in small letters. -/
def IsSmallWord (v : List Char) : Prop := NoBlank v ∧ v ≠ [] ∧ IsLower v

/-- Whether a word is a lower-case word can be checked. -/
instance (v : List Char) : Decidable (IsSmallWord v) := inferInstanceAs (Decidable (_ ∧ _))

/-- Small words are spelled with one space between them. -/
theorem spells_join {ws : List String} (h : ∀ v ∈ ws, IsSmallWord v.toList) :
    Spells (String.ofList (join [' '] (ws.map String.toList))) ws := by
  have hmap : ∀ v ∈ ws.map String.toList, IsSmallWord v := List.forall_mem_map.2 h
  have hlower : (ws.map String.toList).map lower = ws.map String.toList := by
    conv_rhs => rw [← List.map_id (ws.map String.toList)]
    exact List.map_congr_left fun v hv => lower_of_isLower (hmap v hv).2.2
  rw [Spells, String.toList_ofList, words_join fun v hv => ⟨(hmap v hv).1, (hmap v hv).2.1⟩, hlower]

/-- An occurrence and the name of a weekday are read as a phrase. -/
theorem ofWords?_weekday (hname : weekdayNames.idxOf? name = some target) (which : Occurrence) :
    ofWords? [which.name.toList, name.toList] = some (weekday which target) := by
  have hwhich : occurrence? which.name.toList = some which := by
    cases which <;> rfl
  rw [ofWords?, hwhich, String.ofList_toList, hname]
  rfl

/-- The words for an edge of the week are read as that phrase. -/
theorem ofWords?_weekEdge (edge : Edge) :
    ofWords? [edge.name.toList, "of".toList, "week".toList] = some (weekEdge edge) := by
  cases edge <;> rfl

/-- The words for an edge of the month are read as that phrase. -/
theorem ofWords?_monthEdge (edge : Edge) :
    ofWords? [edge.name.toList, "of".toList, "month".toList] = some (monthEdge edge) := by
  cases edge <;> rfl

/-- A text of words names the day of the phrase that they make up. -/
theorem resolve?_of_spells {text : String} {ws : List String} (htext : Spells text ws) :
    resolve? text today w = (ofWords? (ws.map String.toList)).bind fun phrase =>
      (phrase.day today w).toOption.bind fun d => (Period.ofDate .day d).toOption := by
  rw [resolve?, words_lower, htext]
  rfl

/-- The text names the only day with the property. -/
def NamesOnly (text : String) (today : Date) (w : WeekStart) (P : Date → Prop) : Prop :=
  ∃ p, resolve? text today w = some p ∧ p.precision = .day ∧ ∀ d, P d ↔ d = p.date

/-- A text of words names the day of the phrase. -/
theorem namesOnly_of_spells {text : String} {ws : List String} {phrase : Phrase}
    {P : Date → Prop} {d : Date} (htext : Spells text ws)
    (hphrase : ofWords? (ws.map String.toList) = some phrase)
    (hday : phrase.day today w = .ok d) (hd : d.ordinal < Date.maxOrdinal) (hP : P d)
    (hunique : ∀ e, P e → e = d) : NamesOnly text today w P := by
  obtain ⟨p, hp⟩ := Period.exists_ofDate_day hd
  obtain ⟨hprecision, hdate⟩ := Period.eq_of_ofDate hp
  refine ⟨p, ?_, hprecision, fun e => ?_⟩
  · rw [resolve?_of_spells htext, hphrase, Option.bind_some, hday]
    rw [toOption_ok, Option.bind_some, hp, toOption_ok]
  · rw [hdate]
    constructor
    · exact hunique e
    · rintro rfl
      exact hP

/-- **The day that a phrase names.**  Away from the ends of the calendar, a weekday behind `next`,
`this` or `last` names the only day of its window on that weekday, and the start and the end of the
week or month name the first and the last day of it. -/
theorem namesOnly (hyear : 2 ≤ today.year) (hyear' : today.year ≤ 9998) (w : WeekStart) :
    ∃ week, today.week w = .ok week ∧ week.start.BeginsWeek today w ∧
      week.stop.ordinal = week.start.ordinal + 7 ∧
      ∀ text,
        (∀ (which : Occurrence), ∀ name ∈ weekdayNames, Spells text [which.name, name] →
          NamesOnly text today w fun d => which.Window today week.start d ∧ d.FallsOn name) ∧
        ∀ edge : Edge,
          (Spells text [edge.name, "of", "week"] →
            NamesOnly text today w (edge.IsEdgeOf {d | week.contains d = true})) ∧
          (Spells text [edge.name, "of", "month"] →
            NamesOnly text today w (edge.IsEdgeOf {d | d.sameMonth today = true})) := by
  obtain ⟨hafter, hbefore, hmonth⟩ := Date.ordinal_bounds hyear hyear'
  obtain ⟨week, hweek, hstart, hstop⟩ :=
    Date.exists_week_eq_ok (show 7 ≤ today.ordinal by omega) (by omega) w
  have hfirst : week.start.ordinal ≤ today.ordinal := hstart.1
  refine ⟨week, hweek, hstart, hstop, fun text => ⟨?_, fun edge => ⟨?_, ?_⟩⟩⟩
  · intro which name hname htext
    obtain ⟨target, hlt, hindex, hfalls⟩ := Date.exists_fallsOn_iff hname
    obtain ⟨d, hd, hwindow, hweekday⟩ := exists_weekday_eq_ok hafter hbefore hweek hlt which
    obtain ⟨n, hrow⟩ := which.exists_window_iff today week.start (by omega)
    have hlast := which.ordinal_le_of_window hstart.1 hwindow
    have hfallsOn : d.FallsOn name := (hfalls d).2 hweekday
    refine namesOnly_of_spells htext (ofWords?_weekday hindex which) hd (by omega)
      ⟨hwindow, hfallsOn⟩ ?_
    rintro e ⟨hewindow, hefallsOn⟩
    obtain ⟨hdn, hdn'⟩ := (hrow d).1 hwindow
    obtain ⟨hen, hen'⟩ := (hrow e).1 hewindow
    exact Date.eq_of_fallsOn hefallsOn hfallsOn hen hen' hdn hdn'
  · intro htext
    obtain ⟨d, hd, hedge⟩ := exists_weekEdge_eq_ok hweek hstop edge
    have hmem : week.contains d = true := Edge.mem_of_isEdgeOf hedge
    rw [Date.contains_week hstop, decide_eq_true_iff] at hmem
    exact namesOnly_of_spells htext (ofWords?_weekEdge edge) hd (by omega) hedge
      fun e he => Edge.eq_of_isEdgeOf he hedge
  · intro htext
    obtain ⟨d, hd, hedge⟩ :=
      exists_monthEdge_eq_ok (w := w) (show today.monthIndex + 1 < 12 * 9999 by omega) edge
    have hsame := Date.monthIndex_eq_iff.1 (Date.sameMonth_iff.1 (Edge.mem_of_isEdgeOf hedge))
    have hlast := (Date.ordinal_bounds (d := d) (by rwa [hsame.1]) (by rwa [hsame.1])).2.1
    exact namesOnly_of_spells htext (ofWords?_monthEdge edge) hd (by omega) hedge
      fun e he => Edge.eq_of_isEdgeOf he hedge

/-- From the Wednesday before the end of February 2024 the next Friday is the first of March, and
the last Wednesday lies a week before. -/
theorem namesOnly_leapYear :
    let today : Date := ⟨2024, 2, 28, by decide⟩
    (∃ p, resolve? " Next  FRIDAY" today .sunday = some p ∧ p.date = ⟨2024, 3, 1, by decide⟩) ∧
      ∃ p, resolve? "last Wednesday" today .sunday = some p ∧ p.date = ⟨2024, 2, 21, by decide⟩ := by
  intro today
  obtain ⟨week, -, -, -, hnames⟩ := namesOnly (show 2 ≤ today.year by decide) (by decide) .sunday
  obtain ⟨friday, hfriday, -, hnext⟩ := (hnames " Next  FRIDAY").1 .next "friday" (by decide)
    (by decide +kernel)
  obtain ⟨wednesday, hwednesday, -, hlast⟩ := (hnames "last Wednesday").1 .last "wednesday"
    (by decide) (by decide +kernel)
  refine ⟨⟨friday, hfriday, ?_⟩, wednesday, hwednesday, ?_⟩
  · exact ((hnext ⟨2024, 3, 1, by decide⟩).1 ⟨⟨by decide, by decide⟩, by decide +kernel⟩).symm
  · exact ((hlast ⟨2024, 2, 21, by decide⟩).1 ⟨⟨by decide, by decide⟩, by decide +kernel⟩).symm

end Phrase

end TaskQuery
