import TaskQuery.Proofs.Match.Leniency
import TaskQuery.Result

/-!
# The parts of a query that are looked at

The operands of a node are tried from left to right until one decides, and what stands behind it
is not looked at.  So an error shows exactly when matching gets to it.

* `Scope.Reaches`: matching a query gets to a part of it.
* `evaluate_eq_error_iff`: the error of a query is that of a part without operands to which
  matching gets, and such a part passes its error on to the query.
* `evaluate_mapTests_of_reached`: the tests to which matching does not get play no part.
* `field?_of_test`, `exists_test_of_evaluate`: a fault names the field of the test it comes from,
  unless a value is at fault.
* `test_eq_unknownField_iff`: only a filter on a field that does not exist is at fault for its name.
* `evaluate_unknownField`: in strict mode an unknown field is an error of the query when matching
  gets to a filter on it, and only then.
-/

namespace TaskQuery

namespace Junction

/-- The value of an operand that decides nothing. -/
def neutral : Junction → Bool
  | all => true
  | any => false

/-- The result of joined results, tried from left to right. -/
def verdict : Junction → List Verdict → Verdict
  | all => Verdict.all
  | any => Verdict.any

variable (j : Junction)

/-- Without operands a node has its neutral answer. -/
@[simp] theorem verdict_nil : j.verdict [] = .ok j.neutral := by
  cases j <;> rfl

/-- Behind an operand that decides nothing the other ones are tried. -/
@[simp] theorem verdict_neutral_cons (vs : List Verdict) :
    j.verdict (.ok j.neutral :: vs) = j.verdict vs := by
  cases j <;> rfl

/-- An operand that decides, or fails, is the last one that is tried. -/
theorem verdict_cons_of_ne {v : Verdict} (h : v ≠ .ok j.neutral) (vs : List Verdict) :
    j.verdict (v :: vs) = v := by
  cases j <;> rcases v with e | (_ | _)
  case all.ok.true | any.ok.false => exact absurd rfl h
  all_goals rfl

/-- A row of results fails with the first one that decides, if that one fails. -/
theorem verdict_eq_error_iff {vs : List Verdict} {e : MatchError} :
    j.verdict vs = .error e ↔
      ∃ before after, vs = before ++ .error e :: after ∧ ∀ v ∈ before, v = .ok j.neutral := by
  constructor
  · intro h
    induction vs with
    | nil =>
      rw [verdict_nil] at h
      cases h
    | cons v vs ih =>
      by_cases hv : v = .ok j.neutral
      · rw [hv, verdict_neutral_cons] at h
        obtain ⟨before, after, rfl, hbefore⟩ := ih h
        exact ⟨v :: before, after, rfl, List.forall_mem_cons.2 ⟨hv, hbefore⟩⟩
      · rw [verdict_cons_of_ne j hv] at h
        exact ⟨[], vs, by rw [h, List.nil_append], fun _ hmem => absurd hmem List.not_mem_nil⟩
  · rintro ⟨before, after, rfl, hbefore⟩
    induction before with
    | nil => exact j.verdict_cons_of_ne (v := .error e) (by simp) after
    | cons v before ih =>
      obtain ⟨hv, hrest⟩ := List.forall_mem_cons.1 hbefore
      rw [List.cons_append, hv, verdict_neutral_cons]
      exact ih hrest

/-- Rows of results agree when they do so up to the first operand that decides. -/
theorem verdict_congr {α : Type} {f g : α → Verdict} {xs : List α}
    (h : ∀ before x after, xs = before ++ x :: after → (∀ y ∈ before, f y = .ok j.neutral) →
      g x = f x) : j.verdict (xs.map g) = j.verdict (xs.map f) := by
  induction xs with
  | nil => rfl
  | cons x xs ih =>
    have hx : g x = f x := h [] x xs rfl fun _ hmem => absurd hmem List.not_mem_nil
    rw [List.map_cons, List.map_cons, hx]
    by_cases hv : f x = .ok j.neutral
    · rw [hv, verdict_neutral_cons, verdict_neutral_cons]
      refine ih fun before y after heq hbefore => ?_
      exact h (x :: before) y after (by rw [heq, List.cons_append])
        (List.forall_mem_cons.2 ⟨hv, hbefore⟩)
    · rw [verdict_cons_of_ne j hv, verdict_cons_of_ne j hv]

/-- A node with operands is their row of results. -/
theorem evaluate_node (s : Scope) {qs : List Query} (h : qs ≠ []) (p : Nat) :
    s.evaluate (j.node qs p) = j.verdict (qs.map s.evaluate) := by
  cases j
  · exact s.evaluate_and h p
  · exact s.evaluate_or h p

/-- Tests are replaced in each operand of a node. -/
theorem mapTests_node (f : Leaf → Leaf) (qs : List Query) (p : Nat) :
    (j.node qs p).mapTests f = j.node (qs.map (Query.mapTests f)) p := by
  cases j <;> rw [node, Query.mapTests, Query.mapTestsAll_eq_map]

end Junction

namespace Query

/-- A test, or a node without operands. -/
def IsUndivided : Query → Prop
  | leaf _ _ => True
  | and qs _ | or qs _ => qs = []
  | not _ _ => False

/-- To prove something of every query, prove it of tests and empty nodes, and of the other nodes
from their operands. -/
theorem induction_nodes {P : Query → Prop} (undivided : ∀ q, q.IsUndivided → P q)
    (node : ∀ (j : Junction) qs p, qs ≠ [] → (∀ q ∈ qs, P q) → P (j.node qs p))
    (not : ∀ q p, P q → P (.not q p)) (q : Query) : P q := by
  induction q using induction_operands with
  | leaf l p => exact undivided _ trivial
  | and qs p ih =>
    by_cases h : qs = []
    · exact undivided _ h
    · exact node .all qs p h ih
  | or qs p ih =>
    by_cases h : qs = []
    · exact undivided _ h
    · exact node .any qs p h ih
  | not q p ih => exact not q p ih

end Query

/-- The field that a test is about. -/
def Leaf.field? : Leaf → Option String
  | .field name .. | .range name .. => some name
  | _ => none

namespace Scope

variable {s : Scope} {part : Query}

/-- Matching a query gets to a part of it: in every node around the part, none of the operands
before it decides. -/
inductive Reaches (s : Scope) (part : Query) : Query → Prop where
  /-- The part is the whole query. -/
  | here : Reaches s part part
  /-- The part lies in an operand of a node. -/
  | operand (j : Junction) {before : List Query} {q : Query}
      (hbefore : ∀ r ∈ before, s.evaluate r = .ok j.neutral) (h : Reaches s part q)
      (after : List Query) (p : Nat) : Reaches s part (j.node (before ++ q :: after) p)
  /-- The part lies in what is negated. -/
  | negated {q : Query} (h : Reaches s part q) (p : Nat) : Reaches s part (.not q p)

/-- A part to which matching gets passes its error on to the query. -/
theorem evaluate_eq_error_of_reaches {q : Query} {e : MatchError} (h : s.Reaches part q)
    (he : s.evaluate part = .error e) : s.evaluate q = .error e := by
  induction h with
  | here => exact he
  | @operand j before q hbefore _ after p ih =>
    rw [j.evaluate_node s (by simp), j.verdict_eq_error_iff]
    refine ⟨before.map s.evaluate, after.map s.evaluate, ?_, ?_⟩
    · rw [List.map_append, List.map_cons, ih]
    · intro v hv
      obtain ⟨r, hr, rfl⟩ := List.mem_map.1 hv
      exact hbefore r hr
  | negated _ p ih =>
    rw [evaluate_not, ih]
    rfl

/-- **Where an error comes from.**  A query fails with an error exactly when matching gets to a
test or an empty node that fails with it. -/
theorem evaluate_eq_error_iff {q : Query} {e : MatchError} :
    s.evaluate q = .error e ↔
      ∃ part, part.IsUndivided ∧ s.Reaches part q ∧ s.evaluate part = .error e := by
  refine ⟨fun h => ?_, fun ⟨_, _, hreach, he⟩ => evaluate_eq_error_of_reaches hreach he⟩
  induction q using Query.induction_nodes with
  | undivided q hq => exact ⟨q, hq, .here, h⟩
  | node j qs p hne ih =>
    rw [j.evaluate_node s hne, j.verdict_eq_error_iff] at h
    obtain ⟨before, after, hrow, hbefore⟩ := h
    obtain ⟨qs₁, qs₂, rfl, rfl, hrest⟩ := List.map_eq_append_iff.1 hrow
    obtain ⟨q, qs₃, rfl, hq, -⟩ := List.map_eq_cons_iff.1 hrest
    obtain ⟨part, hpart, hreach, he⟩ := ih q (by simp) hq
    refine ⟨part, hpart, .operand j (fun r hr => ?_) hreach qs₃ p, he⟩
    exact hbefore _ (List.mem_map_of_mem hr)
  | not q p ih =>
    rw [evaluate_not] at h
    rcases hq : s.evaluate q with e' | b
    · rw [hq] at h
      cases h
      obtain ⟨part, hpart, hreach, he⟩ := ih hq
      exact ⟨part, hpart, .negated hreach p, he⟩
    · rw [hq] at h
      cases h

/-- **What matching does not get to plays no part**: other tests may stand there. -/
theorem evaluate_mapTests_of_reached {f : Leaf → Leaf} {q : Query}
    (h : ∀ l p, s.Reaches (.leaf l p) q → f l = l) : s.evaluate (q.mapTests f) = s.evaluate q := by
  induction q using Query.induction_nodes with
  | undivided q hq =>
    cases q with
    | leaf l p => rw [Query.mapTests, h l p .here]
    | and qs p | or qs p =>
      obtain rfl : qs = [] := hq
      rw [Query.mapTests, Query.mapTestsAll]
    | not q p => exact hq.elim
  | node j qs p hne ih =>
    rw [j.mapTests_node, j.evaluate_node s (by simpa using hne), j.evaluate_node s hne,
      List.map_map]
    refine j.verdict_congr fun before q after heq hbefore => ?_
    subst heq
    exact ih q (by simp) fun l p' hreach => h l p' (.operand j hbefore hreach after p)
  | not q p ih =>
    rw [Query.mapTests, evaluate_not, evaluate_not, ih fun l p' hreach => h l p' (.negated hreach p)]

/-! ## Unknown fields -/

section

variable {α : Type} {name value : String} {e : MatchError}

/-- An error of a calendar computation is one of the calendar. -/
theorem exists_calendar_of_ofCalendar {r : Except CalendarError α}
    (h : MatchError.ofCalendar r = .error e) : ∃ c, e = .calendar c := by
  obtain ⟨c, -, hc⟩ := mapError_eq_error.1 h
  exact ⟨c, hc.symm⟩

/-- What goes wrong when a property is compared by its day goes wrong in the calendar. -/
theorem exists_calendar_of_matchesPropertyDay {wanted : List Char} {actual : Value}
    (h : s.matchesPropertyDay wanted actual = .error e) : ∃ c, e = .calendar c := by
  unfold matchesPropertyDay at h
  split at h
  · cases h
  · split at h
    · cases h
    · cases h
    · exact exists_calendar_of_ofCalendar h

/-- What goes wrong when a property is compared by its text is that it has none. -/
theorem exists_fault_of_matchesPropertyText {wanted : List Char} {actual : Value} {exact : Bool}
    (h : s.matchesPropertyText wanted actual exact = .error e) :
    ∃ fault, actual.toText s.settings.nesting = .error fault ∧ e = .noText fault := by
  rcases bind_eq_error.1 h with htext | ⟨text, -, hcompare⟩
  · obtain ⟨fault, hfault, he⟩ := mapError_eq_error.1 htext
    exact ⟨fault, hfault, he.symm⟩
  · cases hcompare

/-- What goes wrong with a value of a property goes wrong with its day, or it has no text. -/
theorem day_or_noText_of_matchesValue {wanted : List Char} {actual : Value} {exact : Bool}
    (h : s.matchesValue wanted actual exact = .error e) :
    s.matchesPropertyDay wanted actual = .error e ∨ actual.isTextual = true ∧
      ∃ fault, actual.toText s.settings.nesting = .error fault ∧ e = .noText fault := by
  obtain ⟨b, hb⟩ | ⟨htextual, htext⟩ := matchesValue_cases wanted actual
  · rw [hb] at h
    cases h
  · rw [htext] at h
    rcases hday : s.matchesPropertyDay wanted actual with e' | (_ | _)
    · rw [hday] at h
      cases h
      exact .inl rfl
    · rw [hday, Verdict.false_orElse] at h
      exact .inr ⟨htextual, exists_fault_of_matchesPropertyText h⟩
    · rw [hday] at h
      cases h

/-- **What goes wrong in a property filter** goes wrong with the day of one of the values, or one of
them has no text. -/
theorem day_or_noText_of_matchesProperty {text : String} {exact : Bool}
    (h : s.matchesProperty text exact = .error e) :
    (∃ wanted actual, s.matchesPropertyDay wanted actual = .error e) ∨
      ∃ v ∈ s.valuesUnder (Leaf.propertyKey text), v.isTextual = true ∧
        ∃ fault, v.toText s.settings.nesting = .error fault ∧ e = .noText fault := by
  cases hvalue : Leaf.propertyValue? text with
  | none =>
    rw [matchesProperty, hvalue] at h
    cases hget : Entries.get? s.properties (Leaf.propertyKey text) <;> rw [hget] at h <;> cases h
  | some value =>
    rw [s.matchesProperty_eq_any hvalue] at h
    obtain ⟨a, -, ha⟩ := List.mem_map.1 (Verdict.mem_of_any_eq_error h)
    obtain ⟨v, hv, he⟩ := List.mem_map.1 (Verdict.mem_of_any_eq_error ha)
    exact (day_or_noText_of_matchesValue he).imp (fun hday => ⟨a, v, hday⟩)
      fun hfault => ⟨v, hv, hfault⟩

/-- A property filter can always be applied. -/
theorem ne_filter_of_matchesProperty {text : String} {exact : Bool}
    (h : s.matchesProperty text exact = .error e) (fault : FilterFault) : e ≠ .filter fault := by
  rintro rfl
  obtain ⟨wanted, actual, hday⟩ | ⟨v, -, -, reason, -, hreason⟩ :=
    day_or_noText_of_matchesProperty h
  · obtain ⟨c, hc⟩ := exists_calendar_of_matchesPropertyDay hday
    cases hc
  · cases hreason

/-- Leniency makes no difference to a property filter. -/
theorem matchesLeaf_property (text : String) (exact : Bool) :
    s.matchesLeaf (.property text exact) = s.matchesProperty text exact := by
  rw [matchesLeaf, test]
  cases h : s.matchesProperty text exact with
  | ok b => rfl
  | error e =>
    cases e with
    | filter fault => exact absurd rfl (ne_filter_of_matchesProperty h fault)
    | _ => rfl

/-! ## What is at fault -/

/-- The fields that hold a date are the scheduled date and the deadline. -/
theorem mem_dateFields_iff :
    name ∈ dateFields ↔
      Field.ofName? name = some .scheduled ∨ Field.ofName? name = some .deadline := by
  constructor
  · intro h
    simp only [dateFields, List.mem_cons, List.not_mem_nil, or_false] at h
    rcases h with rfl | rfl
    · exact .inl rfl
    · exact .inr rfl
  · intro h
    unfold Field.ofName? at h
    split at h
    case h_7 => exact List.mem_cons_self
    case h_8 => exact List.mem_cons_of_mem _ List.mem_cons_self
    all_goals rcases h with h | h <;> cases h

/-- A date is at fault only for its value. -/
theorem fault_of_matchesDate {exact : Bool} {date : Option Stamp} {fault : FilterFault}
    (h : s.matchesDate value exact date = .error (.filter fault)) : fault = .notADate value := by
  unfold matchesDate at h
  split at h
  · cases h
    rfl
  · obtain ⟨c, hc⟩ := exists_calendar_of_ofCalendar h
    cases hc

/-- The end of a range is at fault only for its value. -/
theorem fault_of_bound {exact : Bool} {fault : FilterFault}
    (h : s.bound value exact = .error (.filter fault)) : fault = .notABound value := by
  unfold bound at h
  split at h
  case h_3 | h_4 =>
    obtain ⟨c, hc⟩ := exists_calendar_of_ofCalendar h
    cases hc
  case h_5 =>
    cases h
    rfl
  all_goals cases h

/-- A filter on a field is at fault for a field that does not exist, or for the value of a date. -/
theorem fault_of_matchesField {exact : Bool} {fault : FilterFault}
    (h : s.matchesField name value exact = .error (.filter fault)) :
    (Field.ofName? name = none ∧ fault = .unknownField name) ∨
      (name ∈ dateFields ∧ fault = .notADate value) := by
  unfold matchesField at h
  split at h
  · next hnone =>
    cases h
    exact .inl ⟨hnone, rfl⟩
  · next field hfield =>
    split at h
    · cases h
    · split at h
      case h_7 => exact .inr ⟨mem_dateFields_iff.2 (.inl hfield), fault_of_matchesDate h⟩
      case h_8 => exact .inr ⟨mem_dateFields_iff.2 (.inr hfield), fault_of_matchesDate h⟩
      all_goals cases h

/-- A range is at fault for a field that holds no date, or for one of its ends. -/
theorem fault_of_matchesRange {field start stop : String} {startExact stopExact : Bool}
    {fault : FilterFault}
    (h : s.matchesRange field start stop startExact stopExact = .error (.filter fault)) :
    (field ∉ dateFields ∧ fault = .notADateField field) ∨
      (field ∈ dateFields ∧ (fault = .notABound start ∨ fault = .notABound stop)) := by
  have hends : ∀ date : Option Stamp, (do
      let first ← s.bound start startExact
      let last ← s.bound stop stopExact
      return date.any fun d => (⟨first.start, last.stop⟩ : DateRange).contains d.date : Verdict) =
        .error (.filter fault) → fault = .notABound start ∨ fault = .notABound stop := by
    intro date h
    rcases bind_eq_error.1 h with h | ⟨first, -, h⟩
    · exact .inl (fault_of_bound h)
    · rcases bind_eq_error.1 h with h | ⟨last, -, h⟩
      · exact .inr (fault_of_bound h)
      · cases h
  unfold matchesRange at h
  dsimp only at h
  split at h
  · next hfield => exact .inr ⟨mem_dateFields_iff.2 (.inl hfield), hends _ h⟩
  · next hfield => exact .inr ⟨mem_dateFields_iff.2 (.inr hfield), hends _ h⟩
  · next hscheduled hdeadline =>
    cases h
    exact .inl ⟨fun hfield => (mem_dateFields_iff.1 hfield).elim hscheduled hdeadline, rfl⟩

/-- **Only a filter on a field that does not exist is at fault for its name.** -/
theorem test_eq_unknownField_iff {l : Leaf} :
    s.test l = .error (.filter (.unknownField name)) ↔
      Field.ofName? name = none ∧ ∃ value exact, l = .field name value exact := by
  constructor
  · intro h
    cases l with
    | term value | phrase value => cases h
    | field n value exact =>
      rcases fault_of_matchesField h with ⟨hnone, heq⟩ | ⟨-, heq⟩
      · obtain rfl := FilterFault.unknownField.inj heq
        exact ⟨hnone, value, exact, rfl⟩
      · cases heq
    | property text exact => exact absurd rfl (ne_filter_of_matchesProperty h _)
    | range field start stop startExact stopExact =>
      rcases fault_of_matchesRange h with ⟨-, heq⟩ | ⟨-, heq | heq⟩ <;> cases heq
  · rintro ⟨hnone, value, exact, rfl⟩
    rw [test, matchesField, hnone]

/-- **The field that a fault names** is that of the test, unless it holds dates: then not the field
is at fault but a value. -/
theorem field?_of_test {l : Leaf} {fault : FilterFault} (h : s.test l = .error (.filter fault)) :
    ∃ name, l.field? = some name ∧ fault.field? = if name ∈ dateFields then none else some name := by
  cases l with
  | term value | phrase value => cases h
  | property text exact => exact absurd rfl (ne_filter_of_matchesProperty h fault)
  | field name value exact =>
    refine ⟨name, rfl, ?_⟩
    rcases fault_of_matchesField h with ⟨hnone, rfl⟩ | ⟨hname, rfl⟩
    · have hname : name ∉ dateFields := by
        rw [mem_dateFields_iff, hnone]
        exact fun h => h.elim nofun nofun
      rw [if_neg hname]
      rfl
    · rw [if_pos hname]
      rfl
  | range name start stop startExact stopExact =>
    refine ⟨name, rfl, ?_⟩
    rcases fault_of_matchesRange h with ⟨hname, rfl⟩ | ⟨hname, rfl | rfl⟩
    · rw [if_neg hname]
      rfl
    · rw [if_pos hname]
      rfl
    · rw [if_pos hname]
      rfl

/-- The mode that is there already changes nothing. -/
theorem withStrict_eq_self {strict : Bool} (h : s.settings.strict = strict) :
    s.withStrict strict = s := by
  subst h
  rfl

/-- **Where a fault comes from.**  Only in strict mode a query is at fault, and then for a test to
which matching gets: for its field, or, if the field holds dates, for a value. -/
theorem exists_test_of_evaluate {q : Query} {fault : FilterFault}
    (h : s.evaluate q = .error (.filter fault)) :
    s.settings.strict = true ∧ ∃ l p name, s.Reaches (.leaf l p) q ∧
      s.test l = .error (.filter fault) ∧ l.field? = some name ∧
      fault.field? = if name ∈ dateFields then none else some name := by
  obtain ⟨part, hpart, hreach, he⟩ := evaluate_eq_error_iff.1 h
  cases part with
  | leaf l p =>
    rw [evaluate, matchesLeaf] at he
    cases hstrict : s.settings.strict with
    | false =>
      rw [hstrict] at he
      unfold lenient at he
      split at he
      · cases he
      · next hne => exact absurd he (hne fault)
    | true =>
      have htest : s.test l = .error (.filter fault) := by
        rw [hstrict] at he
        unfold lenient at he
        split at he
        · next heq => rw [heq]; exact he
        · exact he
      obtain ⟨name, hname, hfield⟩ := field?_of_test htest
      exact ⟨rfl, l, p, name, hreach, htest, hname, hfield⟩
  | and qs p | or qs p =>
    obtain rfl : qs = [] := hpart
    rw [evaluate] at he
    cases he
  | not q p => exact hpart.elim

/-- **Unknown fields in strict mode.**  A query fails for the name of a field exactly when there is
no such field and matching gets to a filter on it; and the tests to which matching does not get,
filters on unknown fields among them, may be replaced by any other ones. -/
theorem evaluate_unknownField (hs : s.settings.strict = true) (q : Query) (name : String) :
    (s.evaluate q = .error (.filter (.unknownField name)) ↔
        Field.ofName? name = none ∧
          ∃ value exact p, s.Reaches (.leaf (.field name value exact) p) q) ∧
      ∀ f : Leaf → Leaf, (∀ l p, s.Reaches (.leaf l p) q → f l = l) →
        s.evaluate (q.mapTests f) = s.evaluate q := by
  have hleaf : ∀ l p, s.evaluate (.leaf l p) = s.test l := by
    intro l p
    rw [evaluate, ← matchesLeaf_strict, withStrict_eq_self hs]
  refine ⟨⟨fun h => ?_, ?_⟩, fun f => evaluate_mapTests_of_reached⟩
  · obtain ⟨part, hpart, hreach, he⟩ := evaluate_eq_error_iff.1 h
    cases part with
    | leaf l p =>
      rw [hleaf] at he
      obtain ⟨hnone, value, exact, rfl⟩ := test_eq_unknownField_iff.1 he
      exact ⟨hnone, value, exact, p, hreach⟩
    | and qs p | or qs p =>
      obtain rfl : qs = [] := hpart
      rw [evaluate] at he
      cases he
    | not q p => exact hpart.elim
  · rintro ⟨hnone, value, exact, p, hreach⟩
    refine evaluate_eq_error_of_reaches hreach ?_
    rw [hleaf]
    exact test_eq_unknownField_iff.2 ⟨hnone, value, exact, rfl⟩

/-- `report color:red` fails on a task with the text `report`; on a task without it the filter is
not looked at, and whatever stands in its place the query does not match. -/
theorem evaluate_unknownField_color :
    let scope (text : String) : Scope :=
      { task := { path := "a.md", text }, caseSensitive := false, settings := { strict := true }
        properties := [], clock := ⟨2024, 1, 10, by decide⟩ }
    let color : Leaf := .field "color" "red" false
    let q : Query := .and [.leaf (.term "report") 0, .leaf color 7] 7
    (scope "report").evaluate q = .error (.filter (.unknownField "color")) ∧
      (scope "note").evaluate q = .ok false ∧
      ∀ l, (scope "note").evaluate (q.mapTests fun l' => if l' = color then l else l') =
        .ok false := by
  intro scope color q
  have hnote : (scope "note").evaluate q = .ok false := by decide +kernel
  refine ⟨?_, hnote, fun l => ?_⟩
  · refine (evaluate_unknownField rfl q "color").1.2 ⟨rfl, "red", false, 7, ?_⟩
    refine @Reaches.operand _ _ .all [.leaf (.term "report") 0] _ (fun r hr => ?_) .here [] 7
    obtain rfl := List.mem_singleton.1 hr
    decide +kernel
  · rw [← hnote]
    refine (evaluate_unknownField rfl q "color").2 _ fun l' p hreach => if_neg ?_
    -- were the filter looked at, the query would fail
    rintro rfl
    have herror := (evaluate_unknownField rfl q "color").1.2 ⟨rfl, "red", false, p, hreach⟩
    rw [hnote] at herror
    cases herror

/-- A filter on an unknown field does not make every query fail in strict mode: `report color:red`
does not match a task without `report`. -/
theorem not_all_unknownField_fail :
    ¬∀ (s : Scope) (q : Query), s.settings.strict = true →
      (∃ name value exact, Leaf.field name value exact ∈ q.tests ∧ Field.ofName? name = none) →
        ∃ e, s.evaluate q = .error e := by
  intro h
  obtain ⟨e, he⟩ := h
    { task := { path := "a.md" }, caseSensitive := false, settings := { strict := true }
      properties := [], clock := ⟨2024, 1, 10, by decide⟩ }
    (.and [.leaf (.term "report") 0, .leaf (.field "color" "red" false) 7] 7) rfl
    ⟨"color", "red", false, by decide, rfl⟩
  have hok : Scope.evaluate
      { task := { path := "a.md" }, caseSensitive := false, settings := { strict := true }
        properties := [], clock := ⟨2024, 1, 10, by decide⟩ }
      (.and [.leaf (.term "report") 0, .leaf (.field "color" "red" false) 7] 7) = .ok false := by
    decide +kernel
  rw [hok] at he
  cases he

end

end Scope

end TaskQuery
