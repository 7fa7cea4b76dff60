import TaskQuery.Config.Basic
import TaskQuery.Match.Query
import TaskQuery.Proofs.Query.RoundTrip

/-!
# The filter on the priority

A spelling belongs to the first level that lists it, the names of the levels themselves included.  A
configuration can thus give the name of a level to an earlier one, and the filters that ask for the two
levels then find the same tasks.

* `Spellings.level?_eq_some_iff`: which level a spelling has.
* `Spellings.exists_level?_name`: the name of a level has that level or an earlier one.
* `Scope.matchesText_levelName`, `Scope.matchesText_noPriority`: which priorities the filters find.
* `Scope.passesAtMostOne_iff`: no task passes two of the filters exactly when every name has its level.
* `Scope.matchesText_priorities`: all of this, for every configuration.
-/

namespace TaskQuery

open Text

variable {extra : List (String × List String)} {p q : Priority}

/-! ## Levels -/

namespace Priority

/-- The name of a priority is in its form already. -/
theorem form_name (p : Priority) : form p.name = p.name := by cases p <;> decide

/-- The name of a priority is a spelling of that one only. -/
theorem name_mem_builtin_iff : q.name ∈ p.builtin ↔ p = q := by
  cases p <;> cases q <;> decide

/-- Priorities with one name are the same. -/
theorem eq_of_name_eq (h : p.name = q.name) : p = q := by
  revert h
  cases p <;> cases q <;> decide

/-- Priorities with one rank are the same. -/
theorem eq_of_rank_eq (h : p.rank = q.rank) : p = q := by
  revert h
  cases p <;> cases q <;> decide

end Priority

namespace Spellings

variable {k : Spellings}

/-- The level of a priority as it is spelled. -/
def levelOf? (k : Spellings) (priority : Option String) : Option Priority :=
  priority.bind fun v => k.level? (Priority.form v)

/-- The level of a value is that of its form. -/
theorem levelOf?_some (v : String) : k.levelOf? (some v) = k.level? (Priority.form v) := by
  rw [levelOf?, Option.bind_some]

/-- A value stands for the name of its level, or for its form where it has none. -/
theorem normalize_some (v : String) :
    k.normalize (some v) = if Priority.form v = "" then none
      else some ((k.level? (Priority.form v)).elim (Priority.form v) Priority.name) := by
  rw [normalize, Option.bind_eq_bind, Option.bind_some]
  dsimp only
  by_cases hempty : Priority.form v = ""
  · rw [if_pos hempty, if_pos hempty]
  · rw [if_neg hempty, if_neg hempty]
    cases k.level? (Priority.form v) with
    | none => rw [Option.elim_none]
    | some p => rw [Option.elim_some]

/-- A spelling belongs to the first level that lists it. -/
theorem level?_eq_some_iff {form : String} :
    k.level? form = some p ↔ form ∈ k.of p ∧ ∀ q : Priority, q.rank < p.rank → form ∉ k.of q := by
  have hearlier : (∀ q : Priority, q.rank < p.rank → form ∉ k.of q) ↔
      (0 < p.rank → form ∉ k.of .high) ∧ (1 < p.rank → form ∉ k.of .med) := by
    constructor
    · intro h
      exact ⟨h .high, h .med⟩
    · rintro ⟨hhigh, hmed⟩ q hq
      cases q with
      | high => exact hhigh hq
      | med => exact hmed hq
      | low => cases p <;> exact absurd hq (by decide)
  rw [hearlier]
  unfold level? Priority.all
  simp only [List.find?_cons, List.contains_eq_mem, List.find?_nil]
  by_cases hhigh : form ∈ k.of .high
  · cases p <;> simp [hhigh, Priority.rank]
  · by_cases hmed : form ∈ k.of .med
    · cases p <;> simp [hhigh, hmed, Priority.rank]
    · by_cases hlow : form ∈ k.of .low
      · cases p <;> simp [hhigh, hmed, hlow, Priority.rank]
      · cases p <;> simp [hhigh, hmed, hlow]

/-- What a configuration adds to a level. -/
theorem mem_ofAdditional_iff {form : String} :
    form ∈ (ofAdditional extra).of p ↔ form ∈ p.builtin ∨
      ∃ l ∈ extra, lowerString l.1 = p.name ∧ form ≠ "" ∧ ∃ w ∈ l.2, Priority.form w = form := by
  unfold ofAdditional
  simp only [List.mem_append, List.mem_flatMap, List.mem_filter, List.mem_map, decide_eq_true_eq]
  refine or_congr_right ⟨?_, ?_⟩
  · rintro ⟨l, ⟨hl, hname⟩, hwords, hne⟩
    exact ⟨l, hl, hname, hne, hwords⟩
  · rintro ⟨l, hl, hname, hne, hwords⟩
    exact ⟨l, ⟨hl, hname⟩, hwords, hne⟩

/-- No priority is spelled without characters. -/
theorem not_mem_ofAdditional : "" ∉ (ofAdditional extra).of p := by
  rw [mem_ofAdditional_iff]
  rintro (hbuiltin | ⟨l, -, -, hne, -⟩)
  · exact absurd hbuiltin (by cases p <;> decide)
  · exact hne rfl

/-- A priority keeps its name as a spelling. -/
theorem name_mem_ofAdditional : p.name ∈ (ofAdditional extra).of p :=
  mem_ofAdditional_iff.2 (.inl (Priority.name_mem_builtin_iff.2 rfl))

/-- What some level lists has a level. -/
theorem exists_level?_of_mem {form : String} (h : form ∈ k.of p) :
    ∃ q : Priority, k.level? form = some q ∧ q.rank ≤ p.rank := by
  induction hrank : p.rank using Nat.strongRecOn generalizing p with
  | ind n ih =>
    subst hrank
    by_cases hearlier : ∃ q : Priority, q.rank < p.rank ∧ form ∈ k.of q
    · obtain ⟨q, hq, hmem⟩ := hearlier
      obtain ⟨r, hr, hle⟩ := ih q.rank hq hmem rfl
      exact ⟨r, hr, by omega⟩
    · refine ⟨p, level?_eq_some_iff.2 ⟨h, fun q hq hmem => hearlier ⟨q, hq, hmem⟩⟩, Nat.le_refl _⟩

/-- The name of a level has that level or an earlier one. -/
theorem exists_level?_name (extra : List (String × List String)) (p : Priority) :
    ∃ q : Priority, (ofAdditional extra).level? p.name = some q ∧ q.rank ≤ p.rank :=
  exists_level?_of_mem name_mem_ofAdditional

/-- The level of a priority is found from its normal form. -/
theorem normalize_eq_some_name_iff {priority : Option String} :
    (ofAdditional extra).normalize priority = some p.name ↔
      (ofAdditional extra).levelOf? priority = some p := by
  cases priority with
  | none => exact iff_of_false (Option.not_mem_none p.name) (Option.not_mem_none p)
  | some v =>
    rw [levelOf?_some, normalize_some]
    by_cases hempty : Priority.form v = ""
    · rw [if_pos hempty, hempty, level?_eq_some_iff]
      exact iff_of_false (Option.not_mem_none p.name) fun h => not_mem_ofAdditional h.1
    · rw [if_neg hempty]
      cases hlevel : (ofAdditional extra).level? (Priority.form v) with
      | some q =>
        rw [Option.elim_some, Option.some.injEq, Option.some.injEq]
        exact ⟨Priority.eq_of_name_eq, congrArg Priority.name⟩
      | none =>
        rw [Option.elim_none]
        refine iff_of_false (fun h => ?_) (Option.not_mem_none p)
        -- the name of a level has a level
        rw [Option.some.inj h] at hlevel
        obtain ⟨q, hq, -⟩ := exists_level?_name extra p
        rw [hlevel] at hq
        cases hq

/-- Every name has its level exactly when no word under an earlier level stands for it. -/
theorem level?_name_iff :
    (∀ p : Priority, (ofAdditional extra).level? p.name = some p) ↔
      ∀ p q : Priority, p.rank < q.rank → ∀ l ∈ extra, lowerString l.1 = p.name →
        ∀ w ∈ l.2, Priority.form w ≠ q.name := by
  constructor
  · intro h p q hlt l hl hname w hw hform
    obtain ⟨-, hearlier⟩ := level?_eq_some_iff.1 (h q)
    have hne : q.name ≠ "" := by cases q <;> decide
    exact hearlier p hlt (mem_ofAdditional_iff.2 (.inr ⟨l, hl, hname, hne, w, hw, hform⟩))
  · intro h q
    refine level?_eq_some_iff.2 ⟨name_mem_ofAdditional, fun p hlt hmem => ?_⟩
    rcases mem_ofAdditional_iff.1 hmem with hbuiltin | ⟨l, hl, hname, -, w, hw, hform⟩
    · obtain rfl := Priority.name_mem_builtin_iff.1 hbuiltin
      exact Nat.lt_irrefl _ hlt
    · exact h p q hlt l hl hname w hw hform

end Spellings

/-! ## Filters -/

/-- The values by which a filter asks for a level, or for no priority. -/
def priorityValues : List String := Priority.all.map Priority.name ++ ["none"]

/-- The values are `none` and the names of the priorities. -/
theorem mem_priorityValues_iff {value : String} :
    value ∈ priorityValues ↔ value = "none" ∨ ∃ p : Priority, value = p.name := by
  have hall : ∀ p : Priority, p ∈ Priority.all := by
    intro p
    cases p <;> decide
  rw [priorityValues, List.mem_append, List.mem_map, List.mem_singleton, or_comm]
  refine or_congr_right ⟨?_, ?_⟩
  · rintro ⟨p, -, hp⟩
    exact ⟨p, hp.symm⟩
  · rintro ⟨p, hp⟩
    exact ⟨p, hall p, hp.symm⟩

namespace Scope

variable {s : Scope}

/-- The task passes no two of the filters on the priority. -/
def PassesAtMostOne (s : Scope) : Prop :=
  ∀ v ∈ priorityValues, ∀ w ∈ priorityValues, s.matchesText ("priority:" ++ v) = .ok true →
    s.matchesText ("priority:" ++ w) = .ok true → v = w

/-- A filter on a lower-case priority is read and matched as such. -/
theorem matchesText_priority (s : Scope) {value : String}
    (hvalue : value ≠ "" ∧ ∀ c ∈ value.toList, c.isLower = true) :
    s.matchesText ("priority:" ++ value) = .ok (s.matchesPriority value) := by
  have hparse : Query.parse ("priority:" ++ value) =
      .ok (.leaf (.field "priority" value false) 0) := by
    rw [show "priority:" = "priority" ++ ":" by decide]
    exact Query.parse_field_letters ⟨by decide, List.all_eq_true.1 rfl⟩ hvalue
  rw [matchesText, hparse]
  show s.matchesLeaf _ = _
  simp only [matchesLeaf, test, matchesField, Field.ofName?, if_neg hvalue.1]
  rfl

/-- The filter for no priority finds the tasks without one. -/
theorem matchesText_noPriority :
    s.matchesText "priority:none" = .ok (s.task.priority.all (· = "")) := by
  have hform : Priority.form "none" = "none" := by decide
  have hletters : "none" ≠ "" ∧ ∀ c ∈ "none".toList, c.isLower = true :=
    ⟨by decide, List.all_eq_true.1 rfl⟩
  have hmatches := matchesText_priority s hletters
  rw [matchesPriority, if_pos hform] at hmatches
  exact hmatches

/-- The filter for a level finds the priorities that have the level of its name. -/
theorem matchesText_levelName (hs : s.settings.spellings = .ofAdditional extra) (p : Priority) :
    s.matchesText ("priority:" ++ p.name) =
      .ok (decide ((Spellings.ofAdditional extra).levelOf? s.task.priority =
        (Spellings.ofAdditional extra).level? p.name)) := by
  have hletters : p.name ≠ "" ∧ ∀ c ∈ p.name.toList, c.isLower = true := by
    cases p <;> exact ⟨by decide, List.all_eq_true.1 rfl⟩
  have hnone : p.name ≠ "none" := by cases p <;> decide
  obtain ⟨q, hq, -⟩ := Spellings.exists_level?_name extra p
  have hwanted : (Spellings.ofAdditional extra).normalize (some p.name) = some q.name := by
    rw [Spellings.normalize_eq_some_name_iff]
    rw [Spellings.levelOf?_some, Priority.form_name, hq]
  have hmatches : s.matchesPriority p.name =
      decide ((Spellings.ofAdditional extra).levelOf? s.task.priority = some q) := by
    rw [matchesPriority, Priority.form_name, if_neg hnone, hs, hwanted, Bool.eq_iff_iff]
    simp only [Bool.and_eq_true, decide_eq_true_eq]
    rw [Spellings.normalize_eq_some_name_iff]
    refine and_iff_right_of_imp fun h => ?_
    rw [Spellings.normalize_eq_some_name_iff.2 h]
    rfl
  rw [matchesText_priority s hletters, hmatches, hq]

/-- The name of a priority finds the tasks of its level. -/
theorem matchesText_levelName_iff (hs : s.settings.spellings = .ofAdditional extra) (p : Priority) :
    s.matchesText ("priority:" ++ p.name) = .ok true ↔
      (Spellings.ofAdditional extra).levelOf? s.task.priority =
        (Spellings.ofAdditional extra).level? p.name := by
  rw [matchesText_levelName hs, Except.ok.injEq, decide_eq_true_eq]

/-- A task without a priority passes no filter for a level. -/
theorem not_matchesText_of_noPriority (hs : s.settings.spellings = .ofAdditional extra)
    (h : s.matchesText "priority:none" = .ok true) (p : Priority) :
    s.matchesText ("priority:" ++ p.name) = .ok false := by
  rw [matchesText_noPriority, Except.ok.injEq] at h
  have hnormalize : (Spellings.ofAdditional extra).normalize s.task.priority = none := by
    cases hpriority : s.task.priority with
    | none => rfl
    | some v =>
      rw [hpriority, Option.all_some, decide_eq_true_eq] at h
      rw [h]
      rfl
  have hlevel : (Spellings.ofAdditional extra).levelOf? s.task.priority ≠
      (Spellings.ofAdditional extra).level? p.name := by
    obtain ⟨q, hq, -⟩ := Spellings.exists_level?_name extra p
    rw [hq]
    intro hsome
    rw [Spellings.normalize_eq_some_name_iff.2 hsome] at hnormalize
    cases hnormalize
  rw [matchesText_levelName hs, decide_eq_false hlevel]

/-- **No task passes two of the filters exactly when every name of a level has its level.**  A name
that has an earlier level shares it with the name of that level; this is by induction on the rank. -/
theorem passesAtMostOne_iff :
    (∀ s : Scope, s.settings.spellings = .ofAdditional extra → s.PassesAtMostOne) ↔
      ∀ p : Priority, (Spellings.ofAdditional extra).level? p.name = some p := by
  constructor
  · intro h p
    induction hrank : p.rank using Nat.strongRecOn generalizing p with
    | ind n ih =>
      subst hrank
      obtain ⟨q, hq, hle⟩ := Spellings.exists_level?_name extra p
      rcases Nat.lt_or_eq_of_le hle with hlt | heq
      · have hown := ih q.rank hlt q rfl
        -- a task with the name as its priority passes the filters for both
        let s : Scope :=
          { task := { path := "", priority := some p.name }, caseSensitive := false
            settings := { spellings := .ofAdditional extra }, properties := []
            clock := ⟨1, 1, 1, by decide⟩ }
        have hlevel : (Spellings.ofAdditional extra).levelOf? s.task.priority = some q := by
          rw [Spellings.levelOf?_some, Priority.form_name, hq]
        have hp := (matchesText_levelName_iff (s := s) rfl p).2 (hlevel.trans hq.symm)
        have hboth := (matchesText_levelName_iff (s := s) rfl q).2 (hlevel.trans hown.symm)
        have hname := h s rfl p.name (mem_priorityValues_iff.2 (.inr ⟨p, rfl⟩)) q.name
          (mem_priorityValues_iff.2 (.inr ⟨q, rfl⟩)) hp hboth
        rw [Priority.eq_of_name_eq hname] at hlt
        exact absurd hlt (Nat.lt_irrefl _)
      · rw [hq, Priority.eq_of_rank_eq heq]
  · intro h s hs v hv w hw hpv hpw
    rcases mem_priorityValues_iff.1 hv with rfl | ⟨p, rfl⟩ <;>
      rcases mem_priorityValues_iff.1 hw with rfl | ⟨q, rfl⟩
    · rfl
    · rw [not_matchesText_of_noPriority hs hpv] at hpw
      cases hpw
    · rw [not_matchesText_of_noPriority hs hpw] at hpv
      cases hpv
    · rw [matchesText_levelName_iff hs, h] at hpv hpw
      rw [Option.some.inj (hpv.symm.trans hpw)]

/-- A configuration can make the second level a spelling of the first one. -/
theorem not_all_passAtMostOne :
    ¬∀ (c : Config) (s : Scope), s.settings.spellings = c.allSpellings → s.PassesAtMostOne := by
  intro h
  let c : Config := { priority := [("high", ["med"])] }
  have hown : c.allSpellings.level? Priority.med.name = some .med := passesAtMostOne_iff.1 (h c) .med
  have hhigh : c.allSpellings.level? Priority.med.name = some .high := by decide
  rw [hhigh] at hown
  cases hown

/-- **The filters on the priority, for every configuration.**  The filter for no priority finds the
tasks without one, and none of these passes another filter.  The filter for a level finds the priorities
that have the same level as its name, which has that level or an earlier one, so that the filters for
two levels find the same tasks or have none in common.  No task passes two of the four exactly when
every name has its level, and that is when no word that is added to a level stands for the name of a
later one. -/
theorem matchesText_priorities (c : Config) :
    let k := c.allSpellings
    (∀ s : Scope, s.settings.spellings = k →
      s.matchesText "priority:none" = .ok (s.task.priority.all (· = "")) ∧
      (s.matchesText "priority:none" = .ok true →
        ∀ p : Priority, s.matchesText ("priority:" ++ p.name) = .ok false) ∧
      ∀ p : Priority, s.matchesText ("priority:" ++ p.name) =
        .ok (decide (k.levelOf? s.task.priority = k.level? p.name))) ∧
    (∀ p : Priority, ∃ q : Priority, k.level? p.name = some q ∧ q.rank ≤ p.rank) ∧
    ((∀ s : Scope, s.settings.spellings = k → s.PassesAtMostOne) ↔
      ∀ p : Priority, k.level? p.name = some p) ∧
    ((∀ p : Priority, k.level? p.name = some p) ↔
      ∀ p q : Priority, p.rank < q.rank → ∀ l ∈ c.priority, lowerString l.1 = p.name →
        ∀ w ∈ l.2, Priority.form w ≠ q.name) := by
  intro k
  refine ⟨fun s hs => ?_, Spellings.exists_level?_name c.priority, passesAtMostOne_iff,
    Spellings.level?_name_iff⟩
  exact ⟨matchesText_noPriority, not_matchesText_of_noPriority hs, matchesText_levelName hs⟩

/-- With `Med` among the words of the first level, the filters for the first two find the same. -/
theorem matchesText_priorities_med :
    let c : Config := { priority := [("High", ["Med ", "urgent"])] }
    let s : Scope :=
      { task := { path := "a.md", priority := some "URGENT" }, caseSensitive := false
        settings := { spellings := c.allSpellings }, properties := []
        clock := ⟨2025, 6, 1, by decide⟩ }
    s.settings.spellings = c.allSpellings ∧ s.matchesText "priority:high" = .ok true ∧
      s.matchesText "priority:med" = .ok true ∧ s.matchesText "priority:low" = .ok false ∧
      s.matchesText "priority:none" = .ok false := by
  intro c s
  obtain ⟨hall, -, -, -⟩ := matchesText_priorities c
  obtain ⟨hnone, -, hlevel⟩ := hall s rfl
  refine ⟨rfl, ?_, ?_, ?_, ?_⟩
  · exact (hlevel .high).trans (congrArg _ (by decide))
  · exact (hlevel .med).trans (congrArg _ (by decide))
  · exact (hlevel .low).trans (congrArg _ (by decide))
  · exact hnone.trans (congrArg _ (by decide))

end Scope

end TaskQuery
