import TaskQuery.Proofs.DateFilter.Buckets
import TaskQuery.Proofs.DateFilter.Prefixes
import TaskQuery.Proofs.Match.PropertyDates
import TaskQuery.Proofs.Query.RoundTrip

/-!
# Date fields

What `scheduled:value` and `deadline:value` find on a task that has a date in the field.

* `matchesLeaf_of_accepts`: the answer is that of the filter which the value writes.
* `matchesText_startsWith`: a year, a month or a day in digits finds the dates that start with it.
* `matchesLeaf_trichotomy`: a value that stands for a period parts all dates into those before it,
  those in it and those after it, and the operators find just these.
* `matchesLeaf_bucket`: the name of a bucket finds the dates in its stretch of the calendar.
-/

namespace TaskQuery

open Text

namespace DateFilter

variable {today : Date} {weekStart : WeekStart} {f : DateFilter}

/-- Two days before the end of the calendar a filter that stands for a period accepts its days. -/
theorem exists_operand? (weekStart : WeekStart) (hday : today.ordinal + 2 ≤ Date.maxOrdinal)
    (hf : f.NamesPeriod) :
    ∃ p, f.operand? today = some p ∧
      ∀ d, f.accepts (some d) today weekStart = .ok (p.contains d) := by
  cases f with
  | period p => exact ⟨p, rfl, fun d => rfl⟩
  | bucket b =>
    have hone : ∀ {d day : Date} {p : Period}, Period.ofDate .day day = .ok p →
        decide (d = day) = p.contains d := by
      intro d day p hp
      obtain ⟨hprecision, hdate⟩ := Period.eq_of_ofDate hp
      rw [Bool.eq_iff_iff, decide_eq_true_iff, Period.contains_iff, hprecision, hdate]
      exact Iff.rfl
    cases b with
    | today =>
      obtain ⟨p, hp⟩ := Period.exists_ofDate_day (d := today) (by omega)
      refine ⟨p, ?_, fun d => congrArg Except.ok (hone hp)⟩
      rw [operand?, hp]
      rfl
    | tomorrow =>
      obtain ⟨next, hnext⟩ := (Date.exists_addDays_iff (d := today) (n := 1)).2
        ⟨by omega, by omega⟩
      have hordinal := Date.addDays_eq_ok_iff.1 hnext
      obtain ⟨p, hp⟩ := Period.exists_ofDate_day (d := next) (by omega)
      refine ⟨p, ?_, fun d => ?_⟩
      · rw [operand?, hnext, toOption_ok, Option.bind_eq_bind, Option.bind_some, hp, toOption_ok]
      · rw [accepts, Bucket.contains, hnext]
        exact congrArg Except.ok (hone hp)
    | _ => exact hf.elim
  | _ => exact hf.elim

end DateFilter

/-- **Every day lies before a period, in it or after it**, and in no two of these places. -/
theorem Comparison.holds_trichotomy (p : Period) (d : Date) :
    [before.holds d p, p.contains d, after.holds d p].count true = 1 ∧
      notAfter.holds d p = (before.holds d p || p.contains d) ∧
      notBefore.holds d p = (after.holds d p || p.contains d) := by
  have hparts : p.start.ordinal < p.stop.ordinal := p.start_lt_stop
  have hbefore : before.holds d p = decide (d.ordinal < p.start.ordinal) := rfl
  have hnotBefore : notBefore.holds d p = decide (p.start.ordinal ≤ d.ordinal) := rfl
  have hnotAfter : notAfter.holds d p = decide (d.ordinal < p.stop.ordinal) := rfl
  have hafter : after.holds d p = decide (p.stop.ordinal ≤ d.ordinal) := rfl
  have hsame : p.contains d =
      (decide (p.start.ordinal ≤ d.ordinal) && decide (d.ordinal < p.stop.ordinal)) := rfl
  rw [hbefore, hnotBefore, hnotAfter, hafter, hsame]
  rcases Nat.lt_or_ge d.ordinal p.start.ordinal with hlt | hge
  · have hstart : ¬p.start.ordinal ≤ d.ordinal := Nat.not_le_of_lt hlt
    have hstop : ¬p.stop.ordinal ≤ d.ordinal := by omega
    simp [hlt, hstart, hstop, Nat.lt_trans hlt hparts]
  have hstart : ¬d.ordinal < p.start.ordinal := Nat.not_lt_of_le hge
  rcases Nat.lt_or_ge d.ordinal p.stop.ordinal with hlt | hstop
  · simp [hge, hstart, hlt, Nat.not_le_of_lt hlt]
  · simp [hge, hstart, hstop, Nat.not_lt_of_le hstop]

namespace Scope

variable {s : Scope} {name value : String} {exact : Bool} {f : DateFilter} {date : Stamp}

/-- What a date field finds on a task with a date is what its filter accepts. -/
theorem matchesLeaf_of_accepts {b : Bool} (hname : name ∈ dateFields)
    (hdate : s.dateOf name = some date) (hread : s.readDate? value exact = some f)
    (haccepts : f.accepts (some date.date) s.today s.settings.weekStart = .ok b) :
    s.matchesLeaf (.field name value exact) = .ok b := by
  have hvalue : value ≠ "" := by
    rintro rfl
    exact trim_ne_nil_of_readDate? hread rfl
  have hmatch : s.matchesDate value exact (s.dateOf name) = .ok b := by
    rw [matchesDate, hread, hdate]
    exact ofCalendar_eq_ok_iff.2 haccepts
  rw [matchesLeaf, test, matchesField_eq_matchesDate hname hvalue, hmatch]
  rfl

/-- In lenient mode a value that is no date filter finds nothing. -/
theorem matchesLeaf_of_readDate?_eq_none (hstrict : s.settings.strict = false)
    (hname : name ∈ dateFields) (hvalue : value ≠ "") (hread : s.readDate? value exact = none) :
    s.matchesLeaf (.field name value exact) = .ok false := by
  rw [matchesLeaf, test, matchesField_eq_matchesDate hname hvalue, matchesDate, hread, hstrict]
  rfl

/-! ## Years, months and days -/

/-- A text like a date is read by its digits. -/
theorem readDate?_of_isDateLike (h : IsDateLike value.toList) (exact : Bool) :
    s.readDate? value exact = (Period.ofDigits? value.toList).map .period := by
  have hlower : words (lower value.toList) = words value.toList := by
    rw [lower_of_isLower h.isLower]
  rw [readDate?_of_words_eq (h.not_mem (by decide) (by decide)) hlower
    (h.not_mem (by decide) (by decide)), squeeze_of_noBlank h.noBlank,
    DateFilter.readText?_of_isDateLike h]

/-- Behind the name of a date field a text like a date is read back. -/
theorem isNormal_of_isDateLike (hname : name ∈ dateFields) (h : IsDateLike value.toList)
    (exact : Bool) : Leaf.IsNormal (.field name value exact) := by
  have hletters : name ≠ "" ∧ ∀ c ∈ name.toList, c.isLower = true := by
    simp only [dateFields, List.mem_cons, List.not_mem_nil, or_false] at hname
    rcases hname with rfl | rfl
    · exact ⟨by decide, List.all_eq_true.1 rfl⟩
    · exact ⟨by decide, List.all_eq_true.1 rfl⟩
  have hvalue : Leaf.IsNormalValue exact value := by
    cases exact with
    | true => exact h.not_mem (by decide) (by decide)
    | false =>
      refine ⟨?_, h.forall_mem (fun c hc => ⟨isBlank_of_isDigit hc, ?_⟩) (by decide)⟩
      · rintro rfl
        exact absurd h.head (by decide)
      · simp only [List.mem_cons, List.not_mem_nil, or_false, not_or]
        exact ⟨ne_of_isDigit hc (by decide), ne_of_isDigit hc (by decide),
          ne_of_isDigit hc (by decide)⟩
  refine ⟨hletters.1, hletters.2, hvalue, fun _ hdots => ?_⟩
  exact h.not_mem (c := '.') (by decide) (by decide) (hdots.subset List.mem_cons_self)

/-- **A year, a month or a day in digits finds the dates that start with it**, in quotes and without
them.  The last day of the calendar, its month and its year cannot be asked for.  What no date starts
with finds nothing. -/
theorem matchesText_startsWith {precision : Precision} (hstrict : s.settings.strict = false)
    (hname : name ∈ dateFields) (hdate : s.dateOf name = some date)
    (hshape : precision.Shape value.toList) (hlast : value ∉ ["9999", "9999-12", "9999-12-31"])
    (exact : Bool) :
    let text := String.ofList (name.toList ++ ':' :: Lexer.valueText exact value.toList)
    s.matchesText text = .ok (value.toList.isPrefixOf date.date.text) ∧
      ((∀ d : Date, ¬value.toList <+: d.text) → s.matchesText text = .ok false) := by
  intro text
  have hlike := hshape.isDateLike
  have hend : precision.textOf ⟨9999, 12, 31, by decide⟩ ≠ value.toList := by
    intro heq
    apply hlast
    rw [← String.ofList_toList (s := value), ← heq]
    cases precision <;> decide
  have hread := readDate?_of_isDateLike (s := s) hlike exact
  have hleaf : s.matchesLeaf (.field name value exact) =
      .ok (value.toList.isPrefixOf date.date.text) := by
    rw [← Period.any_contains_ofDigits? hshape hend date.date]
    cases hdigits : Period.ofDigits? value.toList with
    | none =>
      have hvalue : value ≠ "" := by
        rintro rfl
        exact absurd hlike.head (by decide)
      rw [hdigits] at hread
      exact matchesLeaf_of_readDate?_eq_none hstrict hname hvalue hread
    | some p =>
      rw [hdigits] at hread
      exact matchesLeaf_of_accepts hname hdate hread rfl
  have hparse : Query.parse text = .ok (.leaf (.field name value exact) 0) :=
    Query.parse_leaf_written (isNormal_of_isDateLike hname hlike exact) ⟨true, true, true⟩
  have htext : s.matchesText text = .ok (value.toList.isPrefixOf date.date.text) := by
    rw [matchesText, hparse]
    exact hleaf
  refine ⟨htext, fun hnone => ?_⟩
  have hfalse : value.toList.isPrefixOf date.date.text = false :=
    Bool.eq_false_iff.2 (mt List.isPrefixOf_iff_prefix.1 (hnone date.date))
  rw [htext, hfalse]

/-- A task of the leap day of 2024 is found by its month, and by none of the days that the years
around it do not have. -/
theorem matchesText_startsWith_leapDay :
    let s : Scope :=
      { task := { path := "a.md", scheduled := some (.day ⟨2024, 2, 29, by decide⟩) }
        caseSensitive := false, settings := {}, properties := []
        clock := ⟨2025, 6, 1, by decide⟩ }
    s.matchesText "scheduled:2024-02" = .ok true ∧
      s.matchesText "scheduled:\"2024-02-29\"" = .ok true ∧
      s.matchesText "scheduled:2023-02-29" = .ok false := by
  intro s
  have hfound := fun (precision : Precision) (value : String) (hshape : precision.Shape value.toList) =>
    matchesText_startsWith (s := s) rfl (show "scheduled" ∈ dateFields by decide) rfl hshape
  have hyear : IsDigits 4 "2024".toList := by decide
  have hbefore : IsDigits 4 "2023".toList := by decide
  have hmonth : IsDigits 2 "02".toList := by decide
  have hday : IsDigits 2 "29".toList := by decide
  refine ⟨?_, ?_, ?_⟩
  · exact (hfound .month "2024-02" (.month hyear hmonth) (by decide) false).1
  · exact (hfound .day "2024-02-29" (.day hyear hmonth hday) (by decide) true).1
  · exact (hfound .day "2023-02-29" (.day hbefore hmonth hday) (by decide) false).1

/-! ## Before, in and after a period -/

/-- An operator in front of a value that stands for a period compares with the period. -/
theorem readDate?_symbol (cmp : Comparison) (hvalue : '"' ∉ value.toList)
    (hread : s.readDate? value exact = some f) (hf : f.NamesPeriod) :
    s.readDate? (cmp.symbol ++ value) exact =
      (f.operand? s.today).map (.comparison cmp) := by
  have hwords : words (trimEnd (squash (lower value.toList))) =
      words (squeeze (lower value.toList)) := by
    rw [words_trimEnd, words_squash, words_squeeze]
  have hequal : '=' ∉ squeeze (lower value.toList) := by
    rw [readDate?_of_not_sigma s (not_sigma_mem_of_readDate? hread),
      DateFilter.readLower?_requote (mt (mem_of_mem_lower (by decide)) hvalue)] at hread
    intro hmem
    exact absurd (DateFilter.isPlain_of_readText? hread hf '=' hmem) (by decide)
  have hapart : '=' ∉ trimEnd (squash (lower value.toList)) :=
    mt (mem_iff_of_words_eq hwords (by decide)).1 hequal
  rw [readDate?_symbol_append s (DateFilter.operator?_symbol_append cmp hapart) hvalue, endpoint?,
    hread]
  rfl

/-- **Every date lies before a period, in it or after it.**  Let the value stand for a period and
the task have a date.  Then exactly one of `<value`, `value` and `>value` matches; `<=value` matches
when one of the first two does, and `>=value` when one of the last two does. -/
theorem matchesLeaf_trichotomy (hname : name ∈ dateFields) (hdate : s.dateOf name = some date)
    (hday : s.today ≤ ⟨9999, 12, 29, by decide⟩) (hvalue : '"' ∉ value.toList)
    (hread : s.readDate? value exact = some f) (hf : f.NamesPeriod) :
    ∃ before same after : Bool,
      s.matchesLeaf (.field name ("<" ++ value) exact) = .ok before ∧
      s.matchesLeaf (.field name value exact) = .ok same ∧
      s.matchesLeaf (.field name (">" ++ value) exact) = .ok after ∧
      [before, same, after].count true = 1 ∧
      s.matchesLeaf (.field name ("<=" ++ value) exact) = .ok (before || same) ∧
      s.matchesLeaf (.field name (">=" ++ value) exact) = .ok (after || same) := by
  have hend : s.today.ordinal + 2 ≤ Date.maxOrdinal := Nat.add_le_add_right hday 2
  obtain ⟨p, hoperand, haccepts⟩ :=
    DateFilter.exists_operand? s.settings.weekStart hend hf
  have hcompare : ∀ cmp : Comparison, s.matchesLeaf (.field name (cmp.symbol ++ value) exact) =
      .ok (cmp.holds date.date p) := by
    intro cmp
    have hcmp : s.readDate? (cmp.symbol ++ value) exact = some (.comparison cmp p) := by
      rw [readDate?_symbol cmp hvalue hread hf, hoperand]
      rfl
    exact matchesLeaf_of_accepts hname hdate hcmp rfl
  have hsame := matchesLeaf_of_accepts hname hdate hread (haccepts date.date)
  obtain ⟨hone, hnotAfter, hnotBefore⟩ := Comparison.holds_trichotomy p date.date
  refine ⟨_, _, _, hcompare .before, hsame, hcompare .after, hone, ?_, ?_⟩
  · rw [← hnotAfter]
    exact hcompare .notAfter
  · rw [← hnotBefore]
    exact hcompare .notBefore

/-- A task of the tenth of January lies in `In 0 Days` but neither before nor after it. -/
theorem matchesLeaf_trichotomy_phrase :
    let s : Scope :=
      { task := { path := "a.md", deadline := some (.day ⟨2024, 1, 10, by decide⟩) }
        caseSensitive := false, settings := { strict := true }, properties := []
        clock := ⟨2024, 1, 10, by decide⟩ }
    s.matchesLeaf (.field "deadline" "In 0 Days" false) = .ok true ∧
      s.matchesLeaf (.field "deadline" ("<" ++ "In 0 Days") false) = .ok false ∧
      s.matchesLeaf (.field "deadline" (">" ++ "In 0 Days") false) = .ok false ∧
      s.matchesLeaf (.field "deadline" ("<=" ++ "In 0 Days") false) = .ok true ∧
      s.matchesLeaf (.field "deadline" (">=" ++ "In 0 Days") false) = .ok true := by
  intro s
  have hread : s.readDate? "In 0 Days" false = some (.period
      ⟨⟨2024, 1, 10, by decide⟩, .day, ⟨2024, 1, 11, by decide⟩, by decide +kernel⟩) := by
    decide +kernel
  have hholds : s.matchesLeaf (.field "deadline" "In 0 Days" false) = .ok true :=
    matchesLeaf_of_accepts (by decide) rfl hread (by decide +kernel)
  obtain ⟨before, same, after, hbefore, hsame, hafter, hone, hnotAfter, hnotBefore⟩ :=
    matchesLeaf_trichotomy (show "deadline" ∈ dateFields by decide) rfl (by decide) (by decide)
      hread trivial
  obtain rfl : same = true := Except.ok.inj (hsame.symm.trans hholds)
  obtain ⟨rfl, rfl⟩ : before = false ∧ after = false := by
    revert hone
    cases before <;> cases after <;> decide
  exact ⟨hsame, hbefore, hafter, hnotAfter, hnotBefore⟩

/-! ## Buckets -/

/-- The text of a bucket is read as the bucket, unless it has too many digits to be read. -/
theorem readDate?_bucketText {b : Bucket}
    (h : ∀ count, b = .nextDays count → (decimal count).length ≤ maxNumberDigits) (exact : Bool) :
    s.readDate? (String.ofList b.text) exact = some (.bucket b) := by
  have hread := Bucket.ofText?_text h
  have hsigma : 'Σ' ∉ b.text := fun hmem =>
    absurd (b.isLower_text 'Σ' hmem).1 (by decide)
  have hquote : '"' ∉ b.text := fun hmem =>
    absurd (Bucket.isPlain_of_ofText? hread '"' hmem) (by decide)
  have hlower : words (lower (String.ofList b.text).toList) = words b.text := by
    rw [String.toList_ofList, lower_of_isLower b.isLower_text]
  rw [readDate?_of_words_eq (by rwa [String.toList_ofList]) hlower hquote, b.squeeze_text,
    DateFilter.readText?_of_ofText? hread]

/-- **A bucket finds the dates in its stretch of the calendar.**  In the years from 2 to 9998 every
week begins on one day, and from there on the stretch is counted.  Every value that is read as the
bucket finds these dates, and the text of a bucket is read as the bucket if its number of days has
no more digits than are read. -/
theorem matchesLeaf_bucket (hname : name ∈ dateFields) (hdate : s.dateOf name = some date)
    (hyear : 2 ≤ s.today.year) (hyear' : s.today.year ≤ 9998) :
    (∃! first : Date, first.BeginsWeek s.today s.settings.weekStart) ∧
      ∀ (first : Date) (b : Bucket), first.BeginsWeek s.today s.settings.weekStart →
        (∀ value exact, s.readDate? value exact = some (.bucket b) →
          s.matchesLeaf (.field name value exact) =
            .ok (decide (b.Covers date.date s.today first))) ∧
        ((∀ count, b = .nextDays count → (decimal count).length ≤ maxNumberDigits) →
          ∀ exact, s.readDate? (String.ofList b.text) exact = some (.bucket b)) := by
  have hafter := (Date.ordinal_bounds hyear hyear').1
  refine ⟨Date.existsUnique_beginsWeek (by omega) _, fun first b hfirst => ⟨?_, ?_⟩⟩
  · intro value exact hread
    exact matchesLeaf_of_accepts hname hdate hread
      (Bucket.contains_eq_decide hyear hyear' hfirst b date.date)
  · intro hshort exact
    exact readDate?_bucketText hshort exact

/-- The last day of 2024 is a Tuesday: the week after that of Sunday the 29th begins on the fifth of
January. -/
theorem matchesLeaf_bucket_yearEnd :
    let s : Scope :=
      { task := { path := "a.md", deadline := some (.day ⟨2025, 1, 5, by decide⟩) }
        caseSensitive := false, settings := { weekStart := .sunday }, properties := []
        clock := ⟨2024, 12, 31, by decide⟩ }
    s.matchesLeaf (.field "deadline" "Next  WEEK" true) = .ok true ∧
      s.matchesLeaf (.field "deadline" "next month" false) = .ok true ∧
      s.matchesLeaf (.field "deadline" (String.ofList (Bucket.nextDays 4).text) false) =
        .ok false := by
  intro s
  have hfirst : Date.BeginsWeek ⟨2024, 12, 29, by decide⟩ s.today s.settings.weekStart := by
    decide +kernel
  obtain ⟨-, hbucket⟩ := matchesLeaf_bucket (s := s) (show "deadline" ∈ dateFields by decide) rfl
    (by decide) (by decide)
  have hfound := fun b value exact hread => (hbucket _ b hfirst).1 value exact hread
  have hdays := (hbucket _ (.nextDays 4) hfirst).2 (by rintro _ ⟨⟩; decide) false
  refine ⟨?_, ?_, ?_⟩
  · rw [hfound .nextWeek _ _ (by decide +kernel)]
    decide +kernel
  · rw [hfound .nextMonth _ _ (by decide +kernel)]
    decide +kernel
  · rw [hfound _ _ _ hdays]
    decide +kernel

end Scope

end TaskQuery
