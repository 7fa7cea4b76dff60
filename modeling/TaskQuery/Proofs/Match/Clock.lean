import Mathlib
import TaskQuery.Proofs.Calendar.DayCount
import TaskQuery.Proofs.DateFilter.IsoText
import TaskQuery.Proofs.Match.ShortCircuit

/-!
# What the clock decides

With a reference day in the settings a query speaks of that day only, but a text property that
names a day by the current one, such as `in 7 days`, is read by the clock all the same.

* `Scope.onDay` is the scope on another current day.
* `Scope.Compares` says which property values a query compares with something.
* `matchesLeaf_onDay`: the clock decides nothing but the days of these values.
* `evaluate_onDay_iff`: so two current days give the same result for all that compares only
  certain values exactly if each of these values names the same day on both.
-/

namespace TaskQuery

namespace Scope

/-- The same scope on another current day. -/
def onDay (s : Scope) (day : Date) : Scope := { s with clock := day }

/-- A test asks for the value of a property, which may be `v`. -/
def LooksAt (s : Scope) (l : Leaf) (v : Value) : Prop :=
  ∃ text exact wanted held, l = .property text exact ∧ Leaf.propertyValue? text = some wanted ∧
    Entries.get? s.properties (Leaf.propertyKey text) = some held ∧ v ∈ held.elements

/-- A query compares the value `v` with something: one of its tests looks at it. -/
def Compares (s : Scope) (q : Query) (v : Value) : Prop := ∃ l ∈ q.tests, s.LooksAt l v

variable {s : Scope} {a b : Date}

/-! ## Equal days give equal results -/

/-- A reference day hides the current day. -/
theorem today_onDay (h : s.settings.referenceDay.isSome) : (s.onDay a).today = (s.onDay b).today := by
  obtain ⟨r, hr⟩ := Option.isSome_iff_exists.1 h
  simp only [today, onDay, hr, Option.getD_some]

/-- With a reference day the clock plays no part in a date. -/
theorem matchesDate_onDay (h : s.settings.referenceDay.isSome) (value : String) (exact : Bool)
    (date : Option Stamp) :
    (s.onDay a).matchesDate value exact date = (s.onDay b).matchesDate value exact date := by
  unfold matchesDate readDate?
  rw [today_onDay h]
  rfl

/-- With a reference day the clock plays no part in a field. -/
theorem matchesField_onDay (h : s.settings.referenceDay.isSome) (name value : String)
    (exact : Bool) :
    (s.onDay a).matchesField name value exact = (s.onDay b).matchesField name value exact := by
  unfold matchesField
  split
  · rfl
  · split
    · rfl
    · split
      case h_7 | h_8 => exact matchesDate_onDay h _ _ _
      all_goals rfl

/-- With a reference day the clock plays no part in the end of a range. -/
theorem bound_onDay (h : s.settings.referenceDay.isSome) (value : String) (exact : Bool) :
    (s.onDay a).bound value exact = (s.onDay b).bound value exact := by
  unfold bound readDate?
  rw [today_onDay h]
  rfl

/-- With a reference day the clock plays no part in a range. -/
theorem matchesRange_onDay (h : s.settings.referenceDay.isSome) (name start stop : String)
    (startExact stopExact : Bool) :
    (s.onDay a).matchesRange name start stop startExact stopExact =
      (s.onDay b).matchesRange name start stop startExact stopExact := by
  unfold matchesRange
  rw [bound_onDay h start, bound_onDay h stop]
  rfl

/-- The clock decides nothing but the day that a value names. -/
theorem matchesValue_onDay (h : s.settings.referenceDay.isSome) (wanted : List Char) {v : Value}
    (hv : Property.day? a v = Property.day? b v) (exact : Bool) :
    (s.onDay a).matchesValue wanted v exact = (s.onDay b).matchesValue wanted v exact := by
  have hday : (s.onDay a).matchesPropertyDay wanted v = (s.onDay b).matchesPropertyDay wanted v := by
    unfold matchesPropertyDay
    rw [today_onDay h, show (s.onDay a).clock = a from rfl, show (s.onDay b).clock = b from rfl, hv]
    rfl
  obtain ⟨_, hb⟩ | ⟨-, htext⟩ := matchesValue_cases wanted v
  · rw [hb, hb]
  · rw [htext, htext, hday]
    rfl

/-- The clock plays no part in a property whose values are read as the same days on both clocks. -/
theorem matchesProperty_onDay (h : s.settings.referenceDay.isSome) (text : String) (exact : Bool)
    (hl : ∀ v, s.LooksAt (.property text exact) v → Property.day? a v = Property.day? b v) :
    (s.onDay a).matchesProperty text exact = (s.onDay b).matchesProperty text exact := by
  unfold matchesProperty
  rw [show (s.onDay a).properties = s.properties from rfl,
    show (s.onDay b).properties = s.properties from rfl]
  split
  · rfl
  · rfl
  · next held wanted hheld hwanted =>
    have hday : ∀ v ∈ held.elements, Property.day? a v = Property.day? b v :=
      fun v hv => hl v ⟨text, exact, wanted, held, rfl, hwanted, hheld, hv⟩
    refine anyPair_congr _ fun p hp => ?_
    obtain ⟨alternative, -, hp⟩ := List.mem_flatMap.1 hp
    obtain ⟨v, hv, rfl⟩ := List.mem_map.1 hp
    exact matchesValue_onDay h alternative (hday v hv) exact

/-- A test has the same result on two days on which the values it looks at name the same days. -/
theorem matchesLeaf_onDay (h : s.settings.referenceDay.isSome) (l : Leaf)
    (hl : ∀ v, s.LooksAt l v → Property.day? a v = Property.day? b v) :
    (s.onDay a).matchesLeaf l = (s.onDay b).matchesLeaf l := by
  have htest : (s.onDay a).test l = (s.onDay b).test l := by
    cases l with
    | term value | phrase value => rfl
    | field name value exact => exact matchesField_onDay h name value exact
    | range name start stop startExact stopExact =>
      exact matchesRange_onDay h name start stop startExact stopExact
    | property text exact => exact matchesProperty_onDay h text exact hl
  rw [matchesLeaf, matchesLeaf, htest]
  rfl

end Scope

/-! ## Different days give different results -/

open Text

/-- A period is the one around its day. -/
theorem Period.ofDate_eq (p : Period) : Period.ofDate p.precision p.date = .ok p := by
  unfold ofDate
  split
  · next stop h =>
    have hstop : stop = p.stop := by simpa [p.stopOf_eq, eq_comm] using h
    cases p
    simp only at hstop
    simp only [hstop]
  · next e h => simp [p.stopOf_eq] at h

namespace Property

variable {a b d : Date} {v : Value} {t : String}

/-- What is asked of a property by `>=` and a date. -/
def sinceText (d : Date) : List Char := '>' :: '=' :: d.text

/-- The text of the comparison has no blanks. -/
theorem noBlank_sinceText (d : Date) : NoBlank (sinceText d) :=
  List.forall_mem_cons.2 ⟨by decide, List.forall_mem_cons.2 ⟨by decide, d.noBlank_text⟩⟩

/-- Lower case leaves the text of the comparison as it is. -/
theorem isLower_sinceText (d : Date) : IsLower (sinceText d) :=
  List.forall_mem_cons.2 ⟨by decide, List.forall_mem_cons.2 ⟨by decide, d.isLower_text⟩⟩

/-- A text that names a day is read as the period of that day. -/
theorem day?_text_eq_some (h : day? a (.text t) = some d) :
    ∃ p, DateFilter.read? t a .monday = some (.period p) ∧ Period.ofDate .day d = .ok p := by
  unfold day? at h
  simp only at h
  split at h
  · next p hp =>
    split at h
    · next hday =>
      refine ⟨p, hp, ?_⟩
      rw [← Option.some.inj h, ← hday]
      exact p.ofDate_eq
    · simp at h
  · simp at h

/-- A comparison names no day. -/
theorem ne_sinceText {e : Date} {p : Period} (h : day? a (.text t) = some d)
    (hp : Period.ofDate .day e = .ok p) : t.toList ≠ sinceText e := by
  intro ht
  obtain ⟨p', hp', -⟩ := day?_text_eq_some h
  have hread : DateFilter.read? t a .monday = some (.comparison .notBefore p) := by
    rw [← DateFilter.read?_notBefore_text hp, ← sinceText, ← ht, String.ofList_toList]
  rw [hread] at hp'
  simp at hp'

/-- A value without blanks and parentheses lists one alternative. -/
theorem alternatives_of_noBlank {w : List Char} (hb : NoBlank w) (hw : w ≠ [])
    (hp : w.head? ≠ some '(') : alternatives w = [w] := by
  have hspace : ' ' ∉ w := fun h => by
    have := hb ' ' h
    simp [isBlank] at this
  unfold alternatives
  simp only [trim_of_noBlank hb, hp, decide_false, Bool.false_and, Bool.false_eq_true, if_false,
    show " OR ".toList = ' ' :: ['O', 'R', ' '] from rfl, splitOn_of_not_mem _ hspace,
    List.map_cons, List.map_nil]
  simp [hw]

/-- A date is not compared as a number. -/
theorem numericComparison?_sinceText (d : Date) : numericComparison? (sinceText d) = none := by
  have hdigit : ∀ c ∈ paddedDecimal 4 d.year, isDigit c = true := by
    intro c hc
    rw [isDigit, digitValue?_of_isDigit (isDigit_of_mem_paddedDecimal hc)]
    rfl
  have hdrop : d.text.dropWhile isDigit =
      '-' :: (paddedDecimal 2 d.month ++ '-' :: paddedDecimal 2 d.day) := by
    rw [Date.text, List.append_assoc, List.dropWhile_append_of_pos hdigit]
    exact List.dropWhile_cons_of_neg (by decide)
  have hop : DateFilter.operator? (sinceText d) = some (.notBefore, d.text) := rfl
  simp only [numericComparison?, hop, Option.bind_eq_bind, Option.bind_some, hdrop]
  rfl

end Property

namespace Scope

variable {a b d : Date} {v : Value} {t : String}

/-- A scope in which the property `day` is `v`. -/
def holding (v : Value) (reference : Date) : Scope where
  task := { path := "" }
  caseSensitive := true
  settings := { referenceDay := some reference }
  properties := [("day", v)]
  clock := reference

/-- The task's only property has the value that it holds. -/
theorem eq_of_get?_holding {reference : Date} {key : String} {held : Value}
    (h : Entries.get? (holding v reference).properties key = some held) : held = v := by
  simp only [holding, Entries.get?, List.lookup] at h
  split at h
  · exact (Option.some.inj h).symm
  · simp at h

end Scope

/-- The query that asks for a `day` from `d` on. -/
def Query.since (d : Date) : Query :=
  .leaf (.property (String.ofList ("day".toList ++ ':' :: Property.sinceText d)) true) 0

namespace Scope

open Property

/-- A text property is compared with a date by the day that it names. -/
theorem matchesValue_sinceText {s : Scope} {p : Period} (hp : Period.ofDate .day d = .ok p)
    (hcase : s.caseSensitive = true) (ht : t.toList ≠ sinceText d) :
    s.matchesValue (sinceText d) (.text t) true =
      .ok ((day? s.clock (.text t)).any fun e => d ≤ e) := by
  have hname : String.ofList (lower (sinceText d)) ≠ "null" := by
    rw [lower_of_isLower (isLower_sinceText d)]
    intro h
    have hhead := congrArg (fun u => u.toList.head?) h
    simp only [String.toList_ofList, sinceText, List.head?_cons] at hhead
    exact absurd hhead (by decide)
  have hstart := Period.start_of_ofDate_day hp
  have hday : s.matchesPropertyDay (sinceText d) (.text t) =
      .ok ((day? s.clock (.text t)).any fun e => d ≤ e) := by
    unfold matchesPropertyDay
    cases day? s.clock (.text t) with
    | none => rfl
    | some e =>
      rw [sinceText, DateFilter.read?_notBefore_text hp]
      simp only [DateFilter.accepts, Comparison.holds, hstart, Option.any_some]
      rfl
  have htext : s.matchesPropertyText (sinceText d) (.text t) true = .ok false := by
    have hcompare : s.comparesText (sinceText d) t.toList true = false := by
      simp only [comparesText, fold, hcase, if_true, decide_eq_false_iff_not]
      exact ht
    rw [matchesPropertyText_of_toText rfl, hcompare]
  unfold matchesValue
  simp only [hname, if_false, numericComparison?_sinceText, magnitude?, hday, htext]
  cases (day? s.clock (.text t)).any fun e => d ≤ e <;> rfl

/-- A text property under `day` is what `[day:>=…]` looks at. -/
theorem evaluate_since {c : Date} {p : Period} (hp : Period.ofDate .day d = .ok p)
    (ht : t.toList ≠ sinceText d) (reference : Date) :
    ((holding (.text t) reference).onDay c).evaluate (.since d) =
      .ok ((day? c (.text t)).any fun e => d ≤ e) := by
  have hkey : Leaf.propertyKey (String.ofList ("day".toList ++ ':' :: sinceText d)) = "day" := by
    rw [Leaf.propertyKey, String.toList_ofList]
    rfl
  have hvalue : Leaf.propertyValue? (String.ofList ("day".toList ++ ':' :: sinceText d)) =
      some (String.ofList (sinceText d)) := by
    have hcut : cut? [':'] ("day".toList ++ ':' :: sinceText d) = some ("day".toList, sinceText d) :=
      cut?_append (by decide) [] _
    rw [Leaf.propertyValue?, String.toList_ofList, hcut]
    rfl
  have hone : alternatives (sinceText d) = [sinceText d] :=
    alternatives_of_noBlank (noBlank_sinceText d) (List.cons_ne_nil _ _) (by
      rw [sinceText, List.head?_cons]
      decide)
  have hmatch : ((holding (.text t) reference).onDay c).matchesProperty
      (String.ofList ("day".toList ++ ':' :: sinceText d)) true =
        .ok ((day? c (.text t)).any fun e => d ≤ e) := by
    rw [matchesProperty, hkey, hvalue]
    show anyPair _ true ((alternatives (String.ofList (sinceText d)).toList).flatMap fun w =>
      [.text t].map fun v => (w, v)) = _
    rw [String.toList_ofList, hone]
    show anyPair _ true [(sinceText d, .text t)] = _
    rw [anyPair, matchesValue_sinceText hp rfl ht, anyPair]
    show _ = Except.ok ((day? ((holding (.text t) reference).onDay c).clock (.text t)).any _)
    cases (day? ((holding (.text t) reference).onDay c).clock (.text t)).any fun e => d ≤ e <;> rfl
  rw [Query.since, evaluate, matchesLeaf, test, hmatch]
  rfl

/-- The day on one of two days does not lie before the day on the other, when no query tells the
two apart. -/
theorem exists_le_of_agree {reference : Date}
    (h : ∀ q, ((holding v reference).onDay a).evaluate q = ((holding v reference).onDay b).evaluate q)
    (ha : day? a v = some d) : ∃ e, day? b v = some e ∧ d ≤ e := by
  cases v with
  | stamp s => exact ⟨d, ha, Nat.le_refl _⟩
  | text t =>
    obtain ⟨p, -, hp⟩ := day?_text_eq_some ha
    have hq := h (.since d)
    rw [evaluate_since hp (ne_sinceText ha hp), evaluate_since hp (ne_sinceText ha hp), ha] at hq
    cases hb : day? b (.text t) with
    | none => simp [hb, Date.le_refl] at hq
    | some e => exact ⟨e, rfl, by simpa [hb, Date.le_refl] using hq⟩
  | _ => simp [day?] at ha

/-- **Two current days give the same result for all that compares only certain values exactly if
each of these values names the same day on both.** -/
theorem evaluate_onDay_iff (V : Value → Prop) (a b : Date) :
    (∀ (s : Scope) (q : Query), s.settings.referenceDay.isSome → (∀ v, s.Compares q v → V v) →
        (s.onDay a).evaluate q = (s.onDay b).evaluate q) ↔
      ∀ v, V v → day? a v = day? b v := by
  constructor
  · intro h v hv
    by_cases hlist : ∃ vs, v = .list vs
    · obtain ⟨vs, rfl⟩ := hlist
      rfl
    have hone : v.elements = [v] := Value.elements_of_not_list fun vs hvs => hlist ⟨vs, hvs⟩
    -- a single value is the only one that a query can look at where it is the only property
    have hagree : ∀ q, ((holding v a).onDay a).evaluate q = ((holding v a).onDay b).evaluate q := by
      intro q
      refine h (holding v a) q rfl fun w hw => ?_
      obtain ⟨-, -, text, -, -, held, -, -, hheld, hw⟩ := hw
      obtain rfl : held = v := eq_of_get?_holding hheld
      rw [hone, List.mem_singleton] at hw
      rwa [hw]
    cases ha : day? a v with
    | some d =>
      obtain ⟨e, he, hde⟩ := exists_le_of_agree hagree ha
      obtain ⟨d', hd', hed⟩ := exists_le_of_agree (fun q => (hagree q).symm) he
      rw [ha, Option.some.injEq] at hd'
      subst hd'
      rw [he, Date.le_antisymm hde hed]
    | none =>
      cases hb : day? b v with
      | none => rfl
      | some e =>
        obtain ⟨d', hd', -⟩ := exists_le_of_agree (fun q => (hagree q).symm) hb
        simp [ha] at hd'
  · intro h s q href hV
    refine evaluate_congr q fun l hl => matchesLeaf_onDay href l fun v hv => ?_
    exact h v (hV v ⟨l, hl, hv⟩)

/-- A property `in 7 days` is a different day on the tenth of January 2024 than on the third of
February 2001, whatever the reference day is. -/
theorem evaluate_onDay_inSevenDays :
    ¬∀ (s : Scope) (q : Query), s.settings.referenceDay.isSome →
      (∀ v, s.Compares q v → v = .text "in 7 days") →
        (s.onDay ⟨2024, 1, 10, by decide⟩).evaluate q =
          (s.onDay ⟨2001, 2, 3, by decide⟩).evaluate q := by
  rw [evaluate_onDay_iff fun v => v = .text "in 7 days"]
  intro h
  have hfirst : day? ⟨2024, 1, 10, by decide⟩ (.text "in 7 days") =
      some ⟨2024, 1, 17, by decide⟩ := by cbv
  have hsecond : day? ⟨2001, 2, 3, by decide⟩ (.text "in 7 days") =
      some ⟨2001, 2, 10, by decide⟩ := by cbv
  have hday := h _ rfl
  rw [hfirst, hsecond] at hday
  exact absurd hday (by decide)

end Scope

end TaskQuery
