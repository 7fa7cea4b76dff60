import TaskQuery.Proofs.DateFilter.IsoText
import TaskQuery.Proofs.DateFilter.Words
import TaskQuery.Proofs.Match.Ranges
import TaskQuery.Proofs.Match.ShortCircuit

/-!
# Properties that are days

A property that is a day is looked at by its day, with the filter that a date field would read, but
only where nothing else comes first.  What `scheduled:value` finds on a task of that day,
`[key:value]` finds in the property, with two exceptions: an operator directly in front of a number
compares numbers, also where the number is a year, and a phrase that needs its quotes is read
without them.

* `alternatives_of_readDate?`, `lower_trim_ne_null`: a date filter lists no alternatives and is not
  the name of the absent value.
* `numericComparison?_eq_none_of_mem`: what holds more than a number is not compared as one.
* `matchesPropertyDay_iff`: the day of a property is matched like that of a task, without quotes.
* `matchesLeaf_property_iff`: what follows for a property.
-/

namespace TaskQuery

open Text

/-! ## Texts that are no filters -/

namespace DateFilter

variable {today : Date} {weekStart : WeekStart}

/-- No text is no filter. -/
theorem readText?_nil (quoted : Bool) : readText? quoted [] today weekStart = none := by
  have hdigits : Period.ofDigits? [] = none := by decide +kernel
  show atom? quoted [] today weekStart = none
  rw [atom?, hdigits]
  rfl

/-- The word `null` is no filter. -/
theorem readText?_null (quoted : Bool) :
    readText? quoted "null".toList today weekStart = none := by
  have hbucket : Bucket.ofText? "null".toList = none := by decide +kernel
  have hdigits : Period.ofDigits? "null".toList = none := by decide +kernel
  have hphrase : Phrase.ofWords? (words "null".toList) = none := by decide +kernel
  rw [readText?, if_neg (by decide), hbucket]
  show atom? quoted "null".toList today weekStart = none
  rw [atom?, hdigits, hphrase]
  rfl

end DateFilter

/-! ## Days -/

/-- The value is a day: the date itself or, the last day of the calendar apart, its text. -/
def Value.IsDay (v : Value) (d : Date) : Prop :=
  v = .stamp (.day d) ∨ d.ordinal < Date.maxOrdinal ∧ v = .text (String.ofList d.text)

namespace Value.IsDay

variable {v : Value} {d : Date}

/-- Its text is that of the day, wherever it stands. -/
theorem toText_eq (h : v.IsDay d) (nesting : Nat) : v.toText nesting = .ok d.text := by
  rcases h with rfl | ⟨-, rfl⟩
  · rfl
  · exact congrArg Except.ok String.toList_ofList

/-- The day is the same on all days. -/
theorem day?_eq (h : v.IsDay d) (clock : Date) : Property.day? clock v = some d := by
  rcases h with rfl | ⟨hd, rfl⟩
  · rfl
  · obtain ⟨p, hp⟩ := Period.exists_ofDate_day hd
    obtain ⟨hprecision, hdate⟩ := Period.eq_of_ofDate hp
    simp only [Property.day?, DateFilter.read?_text hp, hprecision, hdate, if_true]

end Value.IsDay

/-! ## What comes before the days -/

namespace Property

variable {wanted : List Char} {c : Char}

/-- A value without parentheses and without ` OR ` lists itself. -/
theorem alternatives_eq_singleton (hne : trim wanted ≠ []) (hparen : '(' ∉ wanted)
    (hor : ¬" OR ".toList <:+: wanted) : alternatives wanted = [trim wanted] := by
  have hhead : (trim wanted).head? ≠ some '(' := fun h =>
    hparen ((infix_trim wanted).subset (List.mem_of_mem_head? h))
  have hsplit : splitOn " OR ".toList (trim wanted) = [trim wanted] :=
    splitOn_of_absent fun h => hor (h.trans (infix_trim wanted))
  unfold alternatives
  simp only [hhead, decide_false, Bool.false_and, Bool.false_eq_true, if_false, hsplit,
    List.map_cons, List.map_nil, trim_trim]
  simp [hne]

/-- What holds more than operators, digits and dots is not compared as a number. -/
theorem numericComparison?_eq_none_of_mem (hc : c ∈ wanted) (hdigit : isDigit c = false)
    (hsign : c ∉ "<>=.".toList) : numericComparison? wanted = none := by
  rw [numericComparison?]
  cases hop : DateFilter.operator? wanted with
  | none => rfl
  | some operator =>
    obtain ⟨cmp, number⟩ := operator
    have hsymbol : cmp.symbol.toList ⊆ "<>=.".toList := by
      cases cmp <;> simp [Comparison.symbol]
    have hnumber : c ∈ number := by
      rw [DateFilter.eq_symbol_append_of_operator? hop, List.mem_append] at hc
      exact hc.resolve_left fun h => hsign (hsymbol h)
    have hrest : c ∈ number.dropWhile isDigit := by
      rw [← List.takeWhile_append_dropWhile (p := isDigit) (l := number),
        List.mem_append] at hnumber
      refine hnumber.resolve_left fun h => ?_
      have hall := List.all_eq_true.1 List.all_takeWhile c h
      rw [hdigit] at hall
      cases hall
    simp only [Option.bind_eq_bind, Option.bind_some]
    split
    · next hnil =>
      rw [hnil] at hrest
      cases hrest
    · next fraction hdot =>
      have hmem : c ∈ fraction := by
        rw [hdot] at hrest
        exact (List.mem_cons.1 hrest).resolve_left fun h => hsign (h ▸ by decide)
      have hall : fraction.all isDigit = false := by
        rw [List.all_eq_false]
        exact ⟨c, hmem, by simp [hdigit]⟩
      simp [hall]
    · rfl

end Property

/-! ## What is read as a date filter -/

namespace Scope

variable {s : Scope} {value : String} {exact : Bool} {f : DateFilter} {t : List Char}

/-- A text is read by its words when they hold no quotes of their own. -/
theorem readDate?_of_words_eq (hsigma : 'Σ' ∉ value.toList)
    (hwords : words (lower value.toList) = words t) (hquote : '"' ∉ t) (exact : Bool) :
    s.readDate? value exact =
      DateFilter.readText? exact (squeeze t) s.today s.settings.weekStart := by
  have hlower : '"' ∉ lower value.toList := mt (mem_iff_of_words_eq hwords (by decide)).1 hquote
  rw [readDate?_of_not_sigma s hsigma, DateFilter.readLower?_requote hlower, squeeze, hwords,
    squeeze]

/-- What is read as a date filter has no capital sigma. -/
theorem not_sigma_mem_of_readDate? (h : s.readDate? value exact = some f) :
    'Σ' ∉ value.toList := by
  intro hsigma
  rw [readDate?_of_sigma s hsigma] at h
  cases h

/-- A date filter is no blank text. -/
theorem trim_ne_nil_of_readDate? (h : s.readDate? value exact = some f) :
    trim value.toList ≠ [] := by
  intro hnil
  have hsigma := not_sigma_mem_of_readDate? h
  have hwords : words (lower value.toList) = words [] := by
    rw [← words_lower_trim, hnil]
    rfl
  rw [readDate?_of_words_eq hsigma hwords (by simp),
    show squeeze [] = [] from rfl, DateFilter.readText?_nil] at h
  cases h

/-- A date filter is not the name of the absent value. -/
theorem lower_trim_ne_null (h : s.readDate? value exact = some f) :
    String.ofList (lower (trim value.toList)) ≠ "null" := by
  intro hnull
  have hsigma := not_sigma_mem_of_readDate? h
  have hwords : words (lower value.toList) = words "null".toList := by
    rw [← words_lower_trim, ← hnull, String.toList_ofList]
  rw [readDate?_of_words_eq hsigma hwords (by decide),
    show squeeze "null".toList = "null".toList by decide, DateFilter.readText?_null] at h
  cases h

/-- What is read as a date filter has no parenthesis. -/
theorem paren_not_mem_of_readDate? (h : s.readDate? value exact = some f) :
    '(' ∉ value.toList := by
  intro hparen
  have hsigma := not_sigma_mem_of_readDate? h
  have hlower : '(' ∈ lower value.toList := (mem_lower_iff (by decide)).2 hparen
  have hrequote : '(' ∈ DateFilter.requote exact (lower value.toList) := by
    cases exact <;> simp [DateFilter.requote, hlower]
  rw [readDate?_of_not_sigma s hsigma,
    DateFilter.readLower?_eq_none (by decide) (by decide) hrequote] at h
  cases h

/-- What is read as a date filter has no `OR` between blanks. -/
theorem not_or_infix_of_readDate? (h : s.readDate? value exact = some f) :
    ¬" OR ".toList <:+: value.toList := by
  rintro ⟨front, back, hvalue⟩
  have hsigma := not_sigma_mem_of_readDate? h
  have hor : orWord ∈ words (lower value.toList) := by
    refine mem_words_of_spaced (by decide) (by decide)
      ⟨front.flatMap lowerChar, back.flatMap lowerChar, ?_⟩
    rw [lower_of_not_mem hsigma, ← hvalue, List.flatMap_append, List.flatMap_append]
    rfl
  rw [readDate?_of_not_sigma s hsigma,
    DateFilter.readLower?_eq_none_of_or (DateFilter.orWord_mem_requote hor exact)] at h
  cases h

/-- A date filter lists no alternatives. -/
theorem alternatives_of_readDate? (h : s.readDate? value exact = some f) :
    Property.alternatives value.toList = [trim value.toList] :=
  Property.alternatives_eq_singleton (trim_ne_nil_of_readDate? h) (paren_not_mem_of_readDate? h)
    (not_or_infix_of_readDate? h)

/-- Without quotes a trimmed text is read as the text itself. -/
theorem read?_trim (s : Scope) (value : String) :
    DateFilter.read? (String.ofList (trim value.toList)) s.today s.settings.weekStart =
      s.readDate? value false := by
  rw [← readDate?_false]
  by_cases hsigma : 'Σ' ∈ value.toList
  · have hmem : 'Σ' ∈ trim value.toList :=
      (mem_iff_of_words_eq (words_trim value.toList) (by decide)).2 hsigma
    rw [readDate?_of_sigma s hsigma, readDate?_of_sigma s (by rwa [String.toList_ofList])]
  · have hnot : 'Σ' ∉ (String.ofList (trim value.toList)).toList := by
      rw [String.toList_ofList]
      exact fun h => hsigma ((infix_trim value.toList).subset h)
    rw [readDate?_of_not_sigma s hsigma, readDate?_of_not_sigma s hnot, String.toList_ofList]
    exact DateFilter.readLower?_of_words_eq (words_lower_trim _)

/-! ## Matching -/

variable {v : Value} {d : Date} {text : String} {wanted : List Char}

/-- The mode does not change when the answer is yes. -/
theorem lenient_eq_ok_true_iff {strict : Bool} {r : Verdict} :
    lenient strict r = .ok true ↔ r = .ok true := by
  unfold lenient
  split
  · cases strict <;> simp
  · rfl

/-- A truth value is one of the calendar computation. -/
theorem ofCalendar_eq_ok_iff {r : Except CalendarError Bool} {b : Bool} :
    MatchError.ofCalendar r = .ok b ↔ r = .ok b := mapError_eq_ok

/-- A task of the day matches when what is read accepts the day. -/
theorem matchesLeaf_scheduled_iff (hd : s.task.scheduled.map Stamp.date = some d) :
    s.matchesLeaf (.field "scheduled" value exact) = .ok true ↔
      ∃ f, s.readDate? value exact = some f ∧
        f.accepts (some d) s.today s.settings.weekStart = .ok true := by
  rw [matchesLeaf, lenient_eq_ok_true_iff, test]
  by_cases hvalue : value = ""
  · refine iff_of_false (by rw [hvalue]; simp [matchesField, Field.ofName?]) ?_
    rintro ⟨f, hf, -⟩
    exact trim_ne_nil_of_readDate? hf (by rw [hvalue]; rfl)
  · have hdate : (s.dateOf "scheduled").map Stamp.date = some d := hd
    rw [matchesField_eq_matchesDate (by decide) hvalue, matchesDate, hdate]
    cases s.readDate? value exact with
    | none => simp
    | some f => simp [ofCalendar_eq_ok_iff]

/-- A property that is the day matches by it when what is read without quotes accepts the day. -/
theorem matchesPropertyDay_iff (hv : v.IsDay d) :
    s.matchesPropertyDay (trim value.toList) v = .ok true ↔
      ∃ f, s.readDate? value false = some f ∧
        f.accepts (some d) s.today s.settings.weekStart = .ok true := by
  rw [matchesPropertyDay, hv.day?_eq, read?_trim]
  cases s.readDate? value false with
  | none => simp
  | some f =>
    cases f with
    | absent => simp [DateFilter.accepts, pure, Except.pure]
    | _ => simp [ofCalendar_eq_ok_iff]

/-- A property that has the text of the value, which is a date filter, is that day. -/
theorem accepts_of_text (hv : v.IsDay d) (hread : s.readDate? value exact = some f)
    (htext : s.matchesPropertyText (trim value.toList) v true = .ok true) :
    ∃ g, s.readDate? value false = some g ∧
      g.accepts (some d) s.today s.settings.weekStart = .ok true := by
  have hlower : lower (trim value.toList) = d.text := by
    have heq : s.fold d.text = s.fold (trim value.toList) := by
      simpa [matchesPropertyText_of_toText (hv.toText_eq _), comparesText] using htext
    unfold fold at heq
    split at heq
    · rw [← heq, lower_of_isLower d.isLower_text]
    · rw [← heq, lower_of_isLower d.isLower_text]
  have hsigma := not_sigma_mem_of_readDate? hread
  have hwords : words (lower value.toList) = words d.text := by
    rw [← words_lower_trim, hlower]
  have hquote : '"' ∉ d.text := d.not_mem_text (by decide) (by decide)
  have hreads (quoted : Bool) : s.readDate? value quoted =
      ((Period.ofDate .day d).toOption).map .period := by
    rw [readDate?_of_words_eq hsigma hwords hquote, squeeze_of_noBlank d.noBlank_text,
      DateFilter.readText?_text]
  rw [hreads] at hread ⊢
  cases hp : Period.ofDate .day d with
  | error e =>
    rw [hp] at hread
    cases hread
  | ok p =>
    refine ⟨.period p, rfl, ?_⟩
    rw [DateFilter.accepts, Period.contains_of_ofDate_day hp]
    rfl

/-- A property that is a day is not compared with a number, but by its day and by its text. -/
theorem matchesValue_iff_of_isDay (hv : v.IsDay d)
    (hname : String.ofList (lower wanted) ≠ "null") :
    s.matchesValue wanted v exact = .ok true ↔
      Property.numericComparison? wanted = none ∧
        (s.matchesPropertyDay wanted v = .ok true ∨
          s.matchesPropertyDay wanted v = .ok false ∧
            s.matchesPropertyText wanted v exact = .ok true) := by
  have hcases : s.matchesValue wanted v exact =
      match Property.numericComparison? wanted with
      | some _ => .ok false
      | none => Verdict.orElse (s.matchesPropertyDay wanted v)
          (s.matchesPropertyText wanted v exact) := by
    have hbody := (matchesValue.eq_def s wanted v exact).trans (if_neg hname)
    rw [hbody]
    rcases hv with rfl | ⟨-, rfl⟩
    · cases Property.numericComparison? wanted <;> rfl
    · cases Property.numericComparison? wanted <;> rfl
  rw [hcases]
  cases Property.numericComparison? wanted with
  | some c => simp
  | none =>
    rcases s.matchesPropertyDay wanted v with e | (_ | _)
    · simp [Verdict.orElse, bind, Except.bind]
    · simp [Verdict.orElse, bind, Except.bind]
    · simp [Verdict.orElse, bind, Except.bind, pure, Except.pure]

/-- **What is found in a property that is a day.**  Let `scheduled:value` match a task that is
scheduled on the day.  Then `[key:value]` matches a property that is the day exactly if the value
is no operator in front of a number and `scheduled:value` matches without quotes as well; so an
unquoted value matches as soon as it holds anything but digits, dots and operators. -/
theorem matchesLeaf_property_iff
    (hproperty : Entries.get? s.properties (Leaf.propertyKey text) = some v) (hv : v.IsDay d)
    (hvalue : Leaf.propertyValue? text = some value)
    (hscheduled : s.task.scheduled.map Stamp.date = some d)
    (hmatch : s.matchesLeaf (.field "scheduled" value exact) = .ok true) :
    (s.matchesLeaf (.property text exact) = .ok true ↔
        Property.numericComparison? (trim value.toList) = none ∧
          s.matchesLeaf (.field "scheduled" value false) = .ok true) ∧
      ∀ c ∈ trim value.toList, isDigit c = false → c ∉ "<>=.".toList → exact = false →
        s.matchesLeaf (.property text exact) = .ok true := by
  obtain ⟨f, hread, haccepts⟩ := (matchesLeaf_scheduled_iff hscheduled).1 hmatch
  have hleaf : s.matchesLeaf (.property text exact) = .ok true ↔
      s.matchesValue (trim value.toList) v exact = .ok true := by
    have hone : s.matchesProperty text exact =
        Verdict.orElse (s.matchesValue (trim value.toList) v exact) (.ok false) := by
      rw [matchesProperty, hproperty, hvalue]
      dsimp only
      rw [alternatives_of_readDate? hread]
      rcases hv with rfl | ⟨-, rfl⟩ <;> rfl
    rw [matchesLeaf, lenient_eq_ok_true_iff, test, hone, Verdict.orElse_false]
  -- the text decides nothing that the day does not decide
  have htext : s.matchesPropertyText (trim value.toList) v exact = .ok true →
      ∃ g, s.readDate? value false = some g ∧
        g.accepts (some d) s.today s.settings.weekStart = .ok true := by
    cases exact with
    | false => exact fun _ => ⟨f, hread, haccepts⟩
    | true => exact accepts_of_text hv hread
  have hiff : s.matchesLeaf (.property text exact) = .ok true ↔
      Property.numericComparison? (trim value.toList) = none ∧
        s.matchesLeaf (.field "scheduled" value false) = .ok true := by
    rw [hleaf, matchesValue_iff_of_isDay hv (lower_trim_ne_null hread),
      matchesPropertyDay_iff hv, matchesLeaf_scheduled_iff hscheduled]
    refine and_congr_right fun _ => ⟨?_, .inl⟩
    rintro (hday | ⟨-, hsame⟩)
    · exact hday
    · exact htext hsame
  refine ⟨hiff, fun c hc hdigit hsign hexact => hiff.2 ⟨?_, ?_⟩⟩
  · exact Property.numericComparison?_eq_none_of_mem hc hdigit hsign
  · rwa [hexact] at hmatch

/-- The first of March 2025 lies behind January 2024 and behind the year 2024; as a property it is
found by `>2024-01` but not by `>2024`. -/
theorem matchesLeaf_property_iff_year :
    let s : Scope :=
      { task := { path := "a.md", scheduled := some (.day ⟨2025, 3, 1, by decide⟩) }
        caseSensitive := false, settings := {}
        properties := [("due", .stamp (.day ⟨2025, 3, 1, by decide⟩))]
        clock := ⟨2024, 1, 10, by decide⟩ }
    s.matchesLeaf (.field "scheduled" ">2024-01" false) = .ok true ∧
      s.matchesLeaf (.property "due:>2024-01" false) = .ok true ∧
      s.matchesLeaf (.field "scheduled" ">2024" false) = .ok true ∧
      s.matchesLeaf (.property "due:>2024" false) ≠ .ok true := by
  intro s
  have hmonth : s.matchesLeaf (.field "scheduled" ">2024-01" false) = .ok true := by
    decide +kernel
  have hyear : s.matchesLeaf (.field "scheduled" ">2024" false) = .ok true := by decide +kernel
  obtain ⟨-, hfound⟩ := matchesLeaf_property_iff rfl (.inl rfl)
    (show Leaf.propertyValue? "due:>2024-01" = some ">2024-01" by decide) rfl hmonth
  obtain ⟨hmissed, -⟩ := matchesLeaf_property_iff rfl (.inl rfl)
    (show Leaf.propertyValue? "due:>2024" = some ">2024" by decide) rfl hyear
  refine ⟨hmonth, hfound '-' (by decide) (by decide) (by decide) rfl, hyear, fun h => ?_⟩
  have hnumber : (Property.numericComparison? (trim ">2024".toList)).isSome = true := by
    decide +kernel
  rw [(hmissed.1 h).1] at hnumber
  cases hnumber

end Scope

end TaskQuery
