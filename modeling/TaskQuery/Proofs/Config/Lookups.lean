import TaskQuery.Config.Reader
import TaskQuery.Proofs.Query.Steps

/-!
# What a document has to be like

A configuration is looked up in a document piece by piece, in a fixed order, and the first piece
that is not as it should be decides what comes of the document.  A value of the wrong kind, or
under a name that is not known, is refused with a message.  A section that is no table is not
noticed as such: it may seem to hold the entry that is looked for, or be nothing that can be
looked into, and then the program breaks off.

* `Lookup`, `lookups`: the pieces, in their order.
* `Lookup.IsFine`, `Lookup.Derails`: what is found is as it should be; the search breaks off.
* `Yields`, `yields_ofDocument`: pieces that are looked up one after the other, and a document.
* `exists_ofDocument_iff`: when a document is read.
* `validated_document`: what comes of any document when it is read and checked.
-/

namespace TaskQuery

/-- The error of a section that is no table. -/
def ConfigError.isNoTable : ConfigError → Bool
  | noTable _ | noWordTable _ => true
  | _ => false

namespace Config

open Text

/-! ## Pieces of a configuration -/

/-- What a single entry should be. -/
inductive EntryKind where
  /-- A path. -/
  | path
  /-- A truth value. -/
  | flag
  /-- The name of a day. -/
  | dayName
  deriving DecidableEq

/-- A value is of the kind. -/
def EntryKind.Admits : EntryKind → Value → Prop
  | path, v | dayName, v => ∃ s, v = .text s
  | flag, v => ∃ b, v = .bool b

/-- A piece of a configuration that is looked up in a document. -/
inductive Lookup where
  /-- One entry of a section. -/
  | entry (name key : String) (kind : EntryKind)
  /-- A section of word lists under some of the allowed names. -/
  | words (name : String) (allowed : List String)

/-- The pieces of a configuration, in the order in which they are looked up. -/
def lookups : List Lookup := [
  .entry "paths" "tasks_file" .path,
  .entry "search" "case_sensitive" .flag,
  .entry "search" "week_starts_on" .dayName,
  .entry "search" "strict" .flag,
  .entry "display" "colored_output" .flag,
  .words "keywords" groupNames,
  .words "priority" priorityNames]

/-- The entries of a table; no other value has any. -/
def entriesOf : Value → Entries
  | .object entries => entries
  | _ => []

/-- A value is no table, and it cannot be told that it has no entry under the key: the key is a
part of it or an element of it, or it has neither parts nor elements. -/
inductive Misleads (key : String) : Value → Prop where
  | text {s : String} (h : key.toList <:+: s.toList) : Misleads key (.text s)
  | list {vs : List Value} (h : .text key ∈ vs) : Misleads key (.list vs)
  | scalar {v : Value} (hobject : ∀ entries, v ≠ .object entries) (htext : ∀ s, v ≠ .text s)
      (hlist : ∀ vs, v ≠ .list vs) : Misleads key v

/-- Lists of words as the entries that they are read from. -/
def wordEntries (lists : WordLists) : Entries :=
  lists.map fun (key, words) => (key, wordsValue words)

/-- Every entry is a list of words under one of the allowed names. -/
def IsWordTable (allowed : List String) (entries : Entries) : Prop :=
  ∃ lists, entries = wordEntries lists ∧ ∀ l ∈ lists, l.1 ∈ allowed

variable {document entries : Entries} {name key : String} {v : Value} {allowed : List String}

namespace Lookup

/-- What the document has for a piece is as it should be. -/
def IsFine (document : Entries) : Lookup → Prop
  | entry name key kind =>
    ¬Misleads key (sectionOf document name) ∧
      ∀ v, Entries.get? (entriesOf (sectionOf document name)) key = some v → kind.Admits v
  | words name allowed =>
    ∃ entries, sectionOf document name = .object entries ∧ IsWordTable allowed entries

/-- The section of a piece is no table, and looking into it breaks off. -/
def Derails (document : Entries) : Lookup → Prop
  | entry name key _ => Misleads key (sectionOf document name)
  | words name _ => ∀ entries, sectionOf document name ≠ .object entries

/-- A piece that is as it should be does not derail the reader. -/
theorem IsFine.not_derails {l : Lookup} (h : l.IsFine document) : ¬l.Derails document := by
  cases l with
  | entry name key kind => exact h.1
  | words name allowed =>
    obtain ⟨entries, hsection, -⟩ := h
    exact fun hno => hno entries hsection

end Lookup

/-! ## Single entries -/

/-- Where a section is no table, but seems to have the key, reading fails. -/
theorem entry?_of_misleads (h : Misleads key v) (name : String) :
    entry? name v key = .error (.noTable name) := by
  cases h with
  | text h =>
    rw [← contains_iff_infix] at h
    exact if_pos h
  | list h => exact if_pos (List.any_eq_true.2 ⟨_, h, decide_eq_true rfl⟩)
  | scalar hobject htext hlist =>
    unfold entry?
    split
    · exact absurd rfl (hobject _)
    · exact absurd rfl (htext _)
    · exact absurd rfl (hlist _)
    · rfl

/-- Otherwise the entry is looked up, where there is a table to look it up in. -/
theorem entry?_of_not_misleads (h : ¬Misleads key v) (name : String) :
    entry? name v key = .ok (Entries.get? (entriesOf v) key) := by
  cases v with
  | object entries => rfl
  | text s =>
    refine if_neg fun hs => h (.text ?_)
    rwa [← contains_iff_infix]
  | list vs =>
    refine if_neg fun hvs => h (.list ?_)
    obtain ⟨v, hv, heq⟩ := List.any_eq_true.1 hvs
    split at heq
    · rwa [of_decide_eq_true heq] at hv
    · cases heq
  | _ => exact absurd (.scalar (by simp) (by simp) (by simp)) h

/-! ## Word lists -/

/-- A list of words is a list of texts. -/
theorem readWords_eq_some_iff {vs : List Value} {words : List String} :
    readWords vs = some words ↔ vs = words.map .text := by
  induction vs generalizing words with
  | nil => cases words <;> simp [readWords]
  | cons v vs ih =>
    cases v with
    | text s =>
      rw [readWords, Option.map_eq_some_iff]
      cases words with
      | nil => simp
      | cons w words =>
        simp only [List.map_cons, List.cons.injEq, Value.text.injEq, ih]
        constructor
        · rintro ⟨rest, hvs, rfl, rfl⟩
          exact ⟨rfl, hvs⟩
        · rintro ⟨rfl, hvs⟩
          exact ⟨words, hvs, rfl, rfl⟩
    | _ => cases words <;> simp [readWords]

/-- Lists under allowed names are read from their entries. -/
theorem readWordTable_wordEntries {lists : WordLists} (h : ∀ l ∈ lists, l.1 ∈ allowed)
    (name : String) : readWordTable name allowed (wordEntries lists) = .ok lists := by
  induction lists with
  | nil => rfl
  | cons l lists ih =>
    obtain ⟨hl, hlists⟩ := List.forall_mem_cons.1 h
    have hwords : readWords (l.2.map .text) = some l.2 := readWords_eq_some_iff.2 rfl
    rw [wordEntries, List.map_cons, ← wordEntries, readWordTable, ih hlists]
    simp only [hl, not_true_eq_false, if_false, wordsValue, hwords]
    rfl

/-- What is no table of word lists is refused with a message. -/
theorem readWordTable_of_not_isWordTable (h : ¬IsWordTable allowed entries) (name : String) :
    ∃ key fault, readWordTable name allowed entries = .error (.invalid key fault) := by
  induction entries with
  | nil => exact absurd ⟨[], rfl, by simp⟩ h
  | cons e entries ih =>
    obtain ⟨key, v⟩ := e
    rw [readWordTable]
    by_cases hkey : key ∈ allowed
    · by_cases hv : ∃ words, v = wordsValue words
      · obtain ⟨words, rfl⟩ := hv
        have hwords : readWords (words.map .text) = some words := readWords_eq_some_iff.2 rfl
        have hrest : ¬IsWordTable allowed entries := by
          rintro ⟨lists, rfl, hlists⟩
          exact h ⟨(key, words) :: lists, rfl, List.forall_mem_cons.2 ⟨hkey, hlists⟩⟩
        obtain ⟨badKey, fault, hbad⟩ := ih hrest
        refine ⟨badKey, fault, ?_⟩
        rw [hbad]
        simp only [hkey, not_true_eq_false, if_false, wordsValue, hwords]
        rfl
      · refine ⟨name ++ "." ++ key, .notAWordList, ?_⟩
        simp only [hkey, not_true_eq_false, if_false]
        split
        · next vs =>
          cases hwords : readWords vs with
          | none => rfl
          | some words => exact absurd ⟨words, congrArg _ (readWords_eq_some_iff.1 hwords)⟩ hv
        · rfl
    · refine ⟨name ++ "." ++ key, .unknownName allowed, ?_⟩
      simp only [hkey, not_false_eq_true, if_true]
      rfl

/-- Lists are read under allowed names only. -/
theorem names_of_readWordLists {lists : WordLists}
    (h : readWordLists document name allowed = .ok lists) : ∀ l ∈ lists, l.1 ∈ allowed := by
  unfold readWordLists at h
  split at h
  · next entries hsection =>
    by_cases htable : IsWordTable allowed entries
    · obtain ⟨lists', hentries, hlists⟩ := htable
      rw [hentries, readWordTable_wordEntries hlists] at h
      rwa [← Except.ok.inj h]
    · obtain ⟨key, fault, hbad⟩ := readWordTable_of_not_isWordTable htable name
      rw [hbad] at h
      cases h
  · cases h

/-! ## Pieces one after the other -/

/-- What comes of looking pieces up one after the other: a result when all of them are fine, and
else an error by the first one that is not. -/
inductive Yields {α : Type} (document : Entries) : List Lookup → Except ConfigError α → Prop where
  | done (a : α) : Yields document [] (.ok a)
  | fine {l : Lookup} {ls : List Lookup} {r : Except ConfigError α} (h : l.IsFine document)
      (later : Yields document ls r) : Yields document (l :: ls) r
  | refused {l : Lookup} {ls : List Lookup} {key : String} {fault : ConfigFault}
      (hfine : ¬l.IsFine document) (hderails : ¬l.Derails document) :
      Yields document (l :: ls) (.error (.invalid key fault))
  | derails {l : Lookup} {ls : List Lookup} {e : ConfigError} (h : l.Derails document)
      (he : e.isNoTable = true) : Yields document (l :: ls) (.error e)

namespace Yields

variable {α β : Type} {l : Lookup} {ls : List Lookup} {r : Except ConfigError α}

/-- One piece is looked up, and the others with what it gave. -/
theorem bind {f : α → Except ConfigError β} (h : Yields document [l] r)
    (hf : ∀ a, Yields document ls (f a)) : Yields document (l :: ls) (r >>= f) := by
  cases h with
  | fine hl later =>
    cases later with
    | done a => exact .fine hl (hf a)
  | refused hfine hderails => exact .refused hfine hderails
  | derails hl he => exact .derails hl he

/-- Reading has a result exactly if all its pieces are as they should be. -/
theorem exists_ok_iff (h : Yields document ls r) :
    (∃ a, r = .ok a) ↔ ∀ l ∈ ls, l.IsFine document := by
  induction h with
  | done a => simp
  | fine hl _ ih => simp [ih, hl]
  | refused hfine _ => simp [hfine]
  | derails hl _ =>
    refine iff_of_false (by simp) fun hall => ?_
    exact (hall _ List.mem_cons_self).not_derails hl

/-- An error is a refusal, or that of a section that is no table. -/
theorem error_cases {e : ConfigError} (h : Yields document ls r) (hr : r = .error e) :
    (∃ key fault, e = .invalid key fault) ∨ e.isNoTable = true := by
  induction h with
  | done a => cases hr
  | fine _ _ ih => exact ih hr
  | refused => exact .inl ⟨_, _, (Except.error.inj hr).symm⟩
  | derails _ he => exact .inr (Except.error.inj hr ▸ he)

/-- The search breaks off exactly at a piece that derails behind pieces that are fine. -/
theorem exists_isNoTable_iff (h : Yields document ls r) :
    (∃ e, r = .error e ∧ e.isNoTable = true) ↔
      ∃ before l after, ls = before ++ l :: after ∧ (∀ m ∈ before, m.IsFine document) ∧
        l.Derails document := by
  induction h with
  | done a => simp
  | @fine l ls r hl _ ih =>
    rw [ih]
    constructor
    · rintro ⟨before, m, after, rfl, hbefore, hm⟩
      exact ⟨l :: before, m, after, rfl, List.forall_mem_cons.2 ⟨hl, hbefore⟩, hm⟩
    -- a fine piece does not derail, so that the piece that does comes later
    · rintro ⟨before, m, after, heq, hbefore, hm⟩
      cases before with
      | nil =>
        obtain ⟨rfl, -⟩ := List.cons.inj heq
        exact absurd hm hl.not_derails
      | cons first before =>
        exact ⟨before, m, after, (List.cons.inj heq).2, (List.forall_mem_cons.1 hbefore).2, hm⟩
  | @refused l ls key fault hfine hderails =>
    constructor
    · rintro ⟨e, he, hno⟩
      rw [← Except.error.inj he] at hno
      cases hno
    · rintro ⟨before, m, after, heq, hbefore, hm⟩
      cases before with
      | nil =>
        obtain ⟨rfl, -⟩ := List.cons.inj heq
        exact absurd hm hderails
      | cons first before =>
        obtain ⟨rfl, -⟩ := List.cons.inj heq
        exact absurd (hbefore l List.mem_cons_self) hfine
  | @derails l ls e hl he => exact iff_of_true ⟨e, rfl, he⟩ ⟨[], l, ls, rfl, by simp, hl⟩

end Yields

/-- A single entry that is read by its kind. -/
theorem yields_entry {α : Type} {kind : EntryKind} {f : Option Value → Except ConfigError α}
    (hnone : ∃ a, f none = .ok a) (hadmits : ∀ v, kind.Admits v → ∃ a, f (some v) = .ok a)
    (hother : ∀ v, ¬kind.Admits v → ∃ key fault, f (some v) = .error (.invalid key fault)) :
    Yields document [.entry name key kind] ( entry? name (sectionOf document name) key >>= f) := by
  by_cases hmisleads : Misleads key (sectionOf document name)
  · rw [entry?_of_misleads hmisleads]
    exact .derails hmisleads rfl
  · rw [entry?_of_not_misleads hmisleads]
    show Yields document _ (f _)
    cases hv : Entries.get? (entriesOf (sectionOf document name)) key with
    | none =>
      obtain ⟨a, ha⟩ := hnone
      rw [ha]
      exact .fine ⟨hmisleads, by simp [hv]⟩ (.done a)
    | some v =>
      by_cases hkind : kind.Admits v
      · obtain ⟨a, ha⟩ := hadmits v hkind
        rw [ha]
        exact .fine ⟨hmisleads, by simpa [hv] using hkind⟩ (.done a)
      · obtain ⟨badKey, fault, hbad⟩ := hother v hkind
        rw [hbad]
        exact .refused (fun hfine => hkind (hfine.2 v hv)) hmisleads

/-- Reading a truth value looks up its entry and nothing else. -/
theorem yields_readFlag (name key : String) (default : Bool) :
    Yields document [.entry name key .flag] (readFlag document name key default) := by
  refine yields_entry ⟨default, rfl⟩ ?_ fun v hv => ?_
  · rintro _ ⟨b, rfl⟩
    exact ⟨b, rfl⟩
  · cases v with
    | bool b => exact absurd ⟨b, rfl⟩ hv
    | _ => exact ⟨_, _, rfl⟩

/-- Reading the path looks up its entry and nothing else. -/
theorem yields_readTasksFile :
    Yields document [.entry "paths" "tasks_file" .path] (readTasksFile document) := by
  refine yields_entry ⟨none, rfl⟩ ?_ fun v hv => ?_
  · rintro _ ⟨s, rfl⟩
    exact ⟨some (.ofText s), rfl⟩
  · cases v with
    | text s => exact absurd ⟨s, rfl⟩ hv
    | _ => exact ⟨_, _, rfl⟩

/-- Reading the week start looks up its entry and nothing else. -/
theorem yields_readWeekStart (default : String) :
    Yields document [.entry "search" "week_starts_on" .dayName]
      (readWeekStart document default) := by
  refine yields_entry ⟨default, rfl⟩ ?_ fun v hv => ?_
  · rintro _ ⟨s, rfl⟩
    exact ⟨lowerString s, rfl⟩
  · cases v with
    | text s => exact absurd ⟨s, rfl⟩ hv
    | _ => exact ⟨_, _, rfl⟩

/-- Reading word lists looks up their section and nothing else. -/
theorem yields_readWordLists (name : String) (allowed : List String) :
    Yields document [.words name allowed] (readWordLists document name allowed) := by
  unfold readWordLists
  split
  · next entries hsection =>
    by_cases htable : IsWordTable allowed entries
    · obtain ⟨lists, rfl, hlists⟩ := htable
      rw [readWordTable_wordEntries hlists]
      exact .fine ⟨_, hsection, lists, rfl, hlists⟩ (.done lists)
    · obtain ⟨key, fault, hbad⟩ := readWordTable_of_not_isWordTable htable name
      rw [hbad]
      refine .refused ?_ fun hno => hno entries hsection
      rintro ⟨entries', hsection', htable'⟩
      rw [hsection] at hsection'
      cases hsection'
      exact htable htable'
  · next hno => exact .derails hno rfl

/-- The pieces of a configuration are looked up one after the other. -/
theorem yields_ofDocument (document : Entries) (source : Option PathName) :
    Yields document lookups (ofDocument document source) :=
  yields_readTasksFile.bind fun _ => (yields_readFlag _ _ _).bind fun _ =>
    (yields_readWeekStart _).bind fun _ => (yields_readFlag _ _ _).bind fun _ =>
      (yields_readFlag _ _ _).bind fun _ => (yields_readWordLists _ _).bind fun _ =>
        (yields_readWordLists _ _).bind fun _ => .done _

/-- A document is read exactly when every piece of it is as it should be. -/
theorem exists_ofDocument_iff (document : Entries) (source : Option PathName) :
    (∃ c, ofDocument document source = .ok c) ↔ ∀ l ∈ lookups, l.IsFine document :=
  (yields_ofDocument document source).exists_ok_iff

/-! ## Documents -/

/-- What a configuration has to be like before it can be used. -/
structure IsValid (c : Config) : Prop where
  /-- Weeks begin on one of the two days. -/
  weekStart : c.weekStartsOn ∈ ["monday", "sunday"]
  /-- Keywords are added to groups only. -/
  keywordNames : ∀ l ∈ c.keywords, l.1 ∈ groupNames
  /-- Spellings are added to priorities only. -/
  priorityNames : ∀ l ∈ c.priority, l.1 ∈ priorityNames

/-- The path of the task export, if there is one, leads to a place that can be looked at. -/
def LeadsSomewhere (c : Config) (f : Folders) (t : FileTree) : Prop :=
  ∃ c', c.resolve f = .ok c' ∧
    ∀ p, c'.tasksFile = some p → ∃ isThere, (t.stateOf p).isThere = .ok isThere

/-- What comes of a document: it is read, and the configuration is checked. -/
def validated (document : Entries) (source : Option PathName) (f : Folders) (t : FileTree) :
    Except ConfigError (Config × List ConfigWarning) := do
  let c ← ofDocument document source
  ((c.validate f).run t).1

/-- Resolving changes at most the path. -/
theorem resolve_eq_ok {c c' : Config} {f : Folders} (h : c.resolve f = .ok c') :
    ∃ p, c' = { c with tasksFile := p } := by
  unfold resolve at h
  split at h
  · exact ⟨c.tasksFile, (Except.ok.inj h).symm⟩
  · obtain ⟨p, -, heq⟩ := bind_eq_ok.1 h
    exact ⟨some p, (Except.ok.inj heq).symm⟩

/-- The week starts that mean something are Monday and Sunday. -/
theorem weekStart_mem_of_isSome {name : String} (h : (WeekStart.ofName? name).isSome = true) :
    name ∈ ["monday", "sunday"] := by
  unfold WeekStart.ofName? at h
  split at h
  · simp
  · simp
  · cases h

/-- A check says that the week start is one, or refuses it. -/
theorem checked_cases (c : Config) (isThere : Bool) :
    (∃ warnings, c.checked isThere = .ok (c, warnings) ∧ c.weekStartsOn ∈ ["monday", "sunday"]) ∨
      ∃ key fault, c.checked isThere = .error (.invalid key fault) := by
  rw [checked, checkWeekStart]
  split
  · next h => exact .inl ⟨_, rfl, weekStart_mem_of_isSome h⟩
  · exact .inr ⟨_, _, rfl⟩

/-- A check of a configuration and of its paths keeps what it says, apart from the path. -/
theorem run_validate_cases (c : Config) (f : Folders) (t : FileTree) :
    (∃ p warnings, ((c.validate f).run t).1 = .ok ({ c with tasksFile := p }, warnings) ∧
        c.weekStartsOn ∈ ["monday", "sunday"]) ∨
      (∃ key fault, ((c.validate f).run t).1 = .error (.invalid key fault)) ∨
      ¬c.LeadsSomewhere f t ∧ ∃ e, ((c.validate f).run t).1 = .error (.badPath e) := by
  unfold validate
  cases hresolve : c.resolve f with
  | error e =>
    refine .inr (.inr ⟨?_, e, rfl⟩)
    rintro ⟨c', hc', -⟩
    rw [hresolve] at hc'
    cases hc'
  | ok c' =>
    obtain ⟨p, rfl⟩ := resolve_eq_ok hresolve
    have hchecked (isThere : Bool) :=
      checked_cases { c with tasksFile := p } isThere
    cases p with
    | none =>
      rcases hchecked true with ⟨warnings, hok, hweek⟩ | herror
      · exact .inl ⟨none, warnings, hok, hweek⟩
      · exact .inr (.inl herror)
    | some p =>
      dsimp only
      rw [Access.run, Access.run]
      cases hstate : (t.stateOf p).isThere with
      | error e =>
        refine .inr (.inr ⟨?_, e, rfl⟩)
        rintro ⟨c', hc', hthere⟩
        rw [hresolve] at hc'
        obtain rfl := Except.ok.inj hc'
        obtain ⟨isThere, hisThere⟩ := hthere p rfl
        rw [hstate] at hisThere
        cases hisThere
      | ok isThere =>
        rcases hchecked isThere with ⟨warnings, hok, hweek⟩ | herror
        · exact .inl ⟨some p, warnings, hok, hweek⟩
        · exact .inr (.inl herror)

/-- The names in a configuration that is read are known. -/
theorem names_of_ofDocument {c : Config} {source : Option PathName}
    (h : ofDocument document source = .ok c) :
    (∀ l ∈ c.keywords, l.1 ∈ groupNames) ∧ ∀ l ∈ c.priority, l.1 ∈ priorityNames := by
  simp only [ofDocument, bind_eq_ok] at h
  obtain ⟨_, -, _, -, _, -, _, -, _, -, keywords, hkeywords, priority, hpriority, heq⟩ := h
  obtain rfl := Except.ok.inj heq
  exact ⟨names_of_readWordLists hkeywords, names_of_readWordLists hpriority⟩

/-- **What comes of any document.**  A configuration that can be used, or a refusal with a message,
unless a section is no table and looking into it breaks off, which happens exactly at the first
piece that is not as it should be; the path of the task export is taken to lead somewhere. -/
theorem validated_document (document : Entries) (source : Option PathName) (f : Folders)
    (t : FileTree) :
    ((∃ c warnings, validated document source f t = .ok (c, warnings) ∧ c.IsValid) ∨
      (∃ key fault, validated document source f t = .error (.invalid key fault)) ∨
      (∃ e, validated document source f t = .error e ∧ e.isNoTable = true) ∨
      ∃ c e, ofDocument document source = .ok c ∧ ¬c.LeadsSomewhere f t ∧
        validated document source f t = .error (.badPath e)) ∧
    ((∃ e, validated document source f t = .error e ∧ e.isNoTable = true) ↔
      ∃ before l after, lookups = before ++ l :: after ∧ (∀ m ∈ before, m.IsFine document) ∧
        l.Derails document) := by
  have hyields := yields_ofDocument document source
  rw [← hyields.exists_isNoTable_iff]
  cases hread : ofDocument document source with
  | error e =>
    rw [hread] at hyields
    have hvalidated : validated document source f t = .error e := by
      rw [validated, hread]
      rfl
    rw [hvalidated]
    refine ⟨?_, by simp⟩
    rcases hyields.error_cases rfl with ⟨key, fault, rfl⟩ | he
    · exact .inr (.inl ⟨key, fault, rfl⟩)
    · exact .inr (.inr (.inl ⟨e, rfl, he⟩))
  | ok c =>
    obtain ⟨hkeywords, hpriority⟩ := names_of_ofDocument hread
    have hvalidated : validated document source f t = ((c.validate f).run t).1 := by
      rw [validated, hread]
      rfl
    rw [hvalidated]
    rcases run_validate_cases c f t with
      ⟨p, warnings, hok, hweek⟩ | ⟨key, fault, hbad⟩ | ⟨hpath, e, hbad⟩
    · rw [hok]
      exact ⟨.inl ⟨_, warnings, rfl, hweek, hkeywords, hpriority⟩, by simp⟩
    · rw [hbad]
      exact ⟨.inr (.inl ⟨key, fault, rfl⟩), by simp [ConfigError.isNoTable]⟩
    · rw [hbad]
      exact ⟨.inr (.inr (.inr ⟨c, e, rfl, hpath, rfl⟩)), by simp [ConfigError.isNoTable]⟩

/-- A number where a section should be. -/
example (f : Folders) (t : FileTree) :
    validated [("paths", .int 1)] none f t = .error (.noTable "paths") := rfl

end Config

end TaskQuery
