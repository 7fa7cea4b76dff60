import TaskQuery.Proofs.Config.Lookups
import TaskQuery.Proofs.Files.PathName
import TaskQuery.Proofs.Toml.Written

/-!
# Configurations read back

The document of a configuration leaves out what says nothing.  Reading it finds every section
either as it was written or missing, and then what stands for a missing section is what was left
out.  Only lists without words do not come back, and no search tells the difference.

* `sectionOf_wordSection`, `readTasksFile_document`: sections that may be missing are found.
* `settings?_withFilledLists`: lists without words have no part in the settings.
* `ofDocument_document_of_isValid`: a configuration is read back from its document.
* `read_fileText`, `ofBytes_fileText`: it is read back from its file.
-/

namespace TaskQuery.Config

open Text

variable {c : Config} {lists : WordLists} {name key : String}

/-- The word lists that have words. -/
def filledLists (lists : WordLists) : WordLists := lists.filter fun (_, words) => !words.isEmpty

/-! ## Sections -/

/-- What is looked up in two parts is found in the first one that has it. -/
theorem get?_append (front rest : Entries) (key : String) :
    Entries.get? (front ++ rest) key = (Entries.get? front key).or (Entries.get? rest key) :=
  List.lookup_append

/-- An entry with another name is passed over. -/
theorem get?_cons_of_ne {v : Value} (h : key ≠ name) (rest : Entries) :
    Entries.get? ((name, v) :: rest) key = Entries.get? rest key := by
  rw [Entries.get?, List.lookup_cons, beq_false_of_ne h]
  rfl

/-- An entry is found under its name. -/
theorem get?_cons_self (name : String) (v : Value) (rest : Entries) :
    Entries.get? ((name, v) :: rest) name = some v :=
  List.lookup_cons_self

/-- The part for paths has no other section. -/
theorem get?_pathSection_of_ne (h : key ≠ "paths") : Entries.get? c.pathSection key = none := by
  unfold pathSection
  split
  · rfl
  · exact get?_cons_of_ne h []

/-- The part for word lists has no other section. -/
theorem get?_wordSection_of_ne (h : key ≠ name) :
    Entries.get? (wordSection name lists) key = none := by
  unfold wordSection
  split
  · rfl
  · exact get?_cons_of_ne h []

/-- A section of word lists has entries for the lists with words, also when it is left out. -/
theorem sectionOf_wordSection (name : String) (lists : WordLists) :
    sectionOf (wordSection name lists) name = .object (wordEntries (filledLists lists)) := by
  unfold wordSection filledLists
  cases lists.filter fun (_, words) => !words.isEmpty with
  | nil => rfl
  | cons l ls => rw [sectionOf, get?_cons_self, Option.getD_some, wordEntries]

/-- The sections of a document that are always there. -/
def fixedSections (c : Config) : Entries :=
  [("search", .object [
      ("case_sensitive", .bool c.caseSensitive),
      ("week_starts_on", .text c.weekStartsOn),
      ("strict", .bool c.strict)]),
    ("display", .object [("colored_output", .bool c.coloredOutput)])]

/-- A section is looked up part by part. -/
theorem get?_document (c : Config) (key : String) :
    Entries.get? c.document key =
      (((Entries.get? c.fixedSections key).or (Entries.get? c.pathSection key)).or
        (Entries.get? (wordSection "keywords" c.keywords) key)).or
          (Entries.get? (wordSection "priority" c.priority) key) := by
  rw [document, get?_append, get?_append, get?_append, fixedSections]

/-- The section of keywords has the lists with words. -/
theorem sectionOf_keywords (c : Config) :
    sectionOf c.document "keywords" = .object (wordEntries (filledLists c.keywords)) := by
  have hpriority : Entries.get? (wordSection "priority" c.priority) "keywords" = none :=
    get?_wordSection_of_ne (by decide)
  rw [← sectionOf_wordSection "keywords", sectionOf, get?_document,
    get?_pathSection_of_ne (by decide), hpriority, Option.or_none]
  rfl

/-- The section of priorities has the lists with words. -/
theorem sectionOf_priority (c : Config) :
    sectionOf c.document "priority" = .object (wordEntries (filledLists c.priority)) := by
  rw [← sectionOf_wordSection "priority", sectionOf, get?_document,
    get?_pathSection_of_ne (by decide), get?_wordSection_of_ne (by decide)]
  rfl

/-- The section of paths is that of its part. -/
theorem sectionOf_paths (c : Config) :
    sectionOf c.document "paths" = sectionOf c.pathSection "paths" := by
  rw [sectionOf, get?_document, get?_wordSection_of_ne (by decide),
    get?_wordSection_of_ne (by decide), Option.or_none, Option.or_none]
  rfl

/-! ## Reading -/

/-- The path is read from the document as it was. -/
theorem readTasksFile_document (hpath : ∀ p, c.tasksFile = some p → p.IsPath) :
    readTasksFile c.document = .ok c.tasksFile := by
  rw [readTasksFile, sectionOf_paths, pathSection]
  cases hfile : c.tasksFile with
  | none => rfl
  | some p =>
    show Except.ok (some (PathName.ofText p.text)) = _
    rw [PathName.ofText_text (hpath p hfile)]

/-- The week start is read from the document as it was. -/
theorem readWeekStart_document (hweek : c.weekStartsOn ∈ ["monday", "sunday"]) (default : String) :
    readWeekStart c.document default = .ok c.weekStartsOn := by
  show Except.ok (lowerString c.weekStartsOn) = _
  have hlower : IsLower c.weekStartsOn.toList := by
    rcases List.mem_cons.1 hweek with h | h
    · rw [h]
      decide
    · rw [List.mem_singleton.1 h]
      decide
  rw [lowerString, lower_of_isLower hlower, String.ofList_toList]

/-- Word lists are read from their section, those without words left out. -/
theorem readWordLists_of_sectionOf {document : Entries} {allowed : List String}
    (hsection : sectionOf document name = .object (wordEntries (filledLists lists)))
    (hallowed : ∀ l ∈ lists, l.1 ∈ allowed) :
    readWordLists document name allowed = .ok (filledLists lists) := by
  rw [readWordLists, hsection]
  exact readWordTable_wordEntries (fun l hl => hallowed l (List.mem_filter.1 hl).1) name

/-! ## Settings -/

/-- A list without words is left out. -/
theorem filledLists_cons_nil (key : String) (lists : WordLists) :
    filledLists ((key, []) :: lists) = filledLists lists := rfl

/-- A list with words stays. -/
theorem filledLists_cons_cons (key word : String) (words : List String) (lists : WordLists) :
    filledLists ((key, word :: words) :: lists) = (key, word :: words) :: filledLists lists := rfl

/-- Leaving lists out brings no names in. -/
theorem lookup_filledLists_of_not_mem (h : name ∉ lists.map Prod.fst) :
    (filledLists lists).lookup name = none := by
  refine List.lookup_eq_none_iff.2 fun l hl => bne_iff_ne.2 ?_
  rintro rfl
  exact h (List.mem_map_of_mem (List.mem_filter.1 hl).1)

/-- A name has no list of words or one without words, which comes to the same. -/
theorem lookup_filledLists (h : (lists.map Prod.fst).Nodup) (name : String) :
    ((filledLists lists).lookup name).getD [] = (lists.lookup name).getD [] := by
  induction lists with
  | nil => rfl
  | cons l lists ih =>
    obtain ⟨key, words⟩ := l
    obtain ⟨hkey, hrest⟩ := List.nodup_cons.1 h
    by_cases hname : name = key
    · subst hname
      cases words with
      | nil =>
        rw [filledLists_cons_nil, lookup_filledLists_of_not_mem hkey, List.lookup_cons_self]
        rfl
      | cons word words =>
        rw [filledLists_cons_cons, List.lookup_cons_self, List.lookup_cons_self]
    · cases words with
      | nil => rw [filledLists_cons_nil, ih hrest, List.lookup_cons, beq_false_of_ne hname]
      | cons word words =>
        rw [filledLists_cons_cons, List.lookup_cons, List.lookup_cons, beq_false_of_ne hname,
          ih hrest]

/-- Lists without words add no spellings. -/
theorem ofAdditional_filledLists (lists : WordLists) :
    Spellings.ofAdditional (filledLists lists) = Spellings.ofAdditional lists := by
  -- spellings of one priority are collected from all of its lists, so keys may occur twice here
  have hwords (p : Priority) :
      ((filledLists lists).filter fun l => lowerString l.1 = p.name).flatMap
        (fun l => (l.2.map Priority.form).filter (· ≠ "")) =
      (lists.filter fun l => lowerString l.1 = p.name).flatMap
        fun l => (l.2.map Priority.form).filter (· ≠ "") := by
    induction lists with
    | nil => rfl
    | cons l lists ih =>
      obtain ⟨key, words⟩ := l
      cases words <;> by_cases hkey : lowerString key = p.name <;>
        simp_all [filledLists]
  exact congrArg Spellings.mk (funext fun p => congrArg (p.builtin ++ ·) (hwords p))

/-- The configuration without lists that have no words. -/
def withFilledLists (c : Config) : Config :=
  { c with keywords := filledLists c.keywords, priority := filledLists c.priority }

/-- Lists without words have no part in the settings. -/
theorem settings?_withFilledLists (h : (c.keywords.map Prod.fst).Nodup) (day : Option Date) :
    c.withFilledLists.settings? day = c.settings? day := by
  have hgroups : c.withFilledLists.allKeywords = c.allKeywords :=
    congrArg Keywords.ofAdditional (funext fun g => lookup_filledLists h g.name)
  have hspellings : c.withFilledLists.allSpellings = c.allSpellings :=
    ofAdditional_filledLists c.priority
  rw [settings?, settings?, hgroups, hspellings]
  rfl

/-- A configuration with a week start has settings. -/
theorem isSome_settings? (h : c.weekStartsOn ∈ ["monday", "sunday"]) (day : Option Date) :
    (c.settings? day).isSome = true := by
  rw [settings?, Option.isSome_map]
  rcases List.mem_cons.1 h with h | h
  · rw [h]
    rfl
  · rw [List.mem_singleton.1 h]
    rfl

/-- **Exactly the names of week starts are taken**, as they are, and any other name is refused with
a message that quotes it. -/
theorem startingOn_eq_ok_iff {s s' : Settings} :
    s.startingOn name = .ok s' ↔
      ∃ weekStart : WeekStart, name = weekStart.name ∧ s' = { s with weekStart } := by
  rw [Settings.startingOn]
  cases h : WeekStart.ofName? name with
  | none =>
    refine ⟨nofun, ?_⟩
    rintro ⟨weekStart, rfl, -⟩
    cases weekStart <;> cases h
  | some weekStart =>
    have hname : name = weekStart.name := by
      unfold WeekStart.ofName? at h
      split at h <;> cases h <;> rfl
    constructor
    · intro hs
      exact ⟨weekStart, hname, (Except.ok.inj hs).symm⟩
    · rintro ⟨other, hother, rfl⟩
      have hsame : some weekStart = some other := by
        rw [← h, hother]
        cases other <;> rfl
      rw [Option.some.inj hsame]

/-- A configuration has settings where its week start is taken, and then these. -/
theorem settings?_eq_startingOn (c : Config) (day : Option Date) :
    c.settings? day = (Settings.startingOn
      { keywords := c.allKeywords, spellings := c.allSpellings, referenceDay := day
        strict := c.strict } c.weekStartsOn).toOption := by
  rw [settings?, Settings.startingOn]
  cases WeekStart.ofName? c.weekStartsOn <;> rfl

/-! ## The whole document -/

/-- Every section of the document is read as it was meant. -/
theorem ofDocument_document (source : Option PathName) (hc : c.IsValid)
    (hpath : ∀ p, c.tasksFile = some p → p.IsPath) :
    ofDocument c.document source = .ok { c.withFilledLists with source } := by
  have hgroups : readWordLists c.document "keywords" groupNames = .ok (filledLists c.keywords) :=
    readWordLists_of_sectionOf (sectionOf_keywords c) hc.keywordNames
  have hpriority : readWordLists c.document "priority" priorityNames =
      .ok (filledLists c.priority) :=
    readWordLists_of_sectionOf (sectionOf_priority c) hc.priorityNames
  rw [ofDocument, readTasksFile_document hpath, readWeekStart_document hc.weekStart, hgroups,
    hpriority]
  rfl

/-- **A configuration is read back from its document**, but for the lists without words, and it
gives the same settings for every reference day. -/
theorem ofDocument_document_of_isValid (source : Option PathName) (hc : c.IsValid)
    (hpath : ∀ p, c.tasksFile = some p → p.IsPath) (hkeywords : (c.keywords.map Prod.fst).Nodup) :
    ∃ c', ofDocument c.document source = .ok c' ∧
      c' = { c with keywords := filledLists c.keywords, priority := filledLists c.priority
                    source } ∧
      ∀ day, (c.settings? day).isSome ∧ c'.settings? day = c.settings? day :=
  ⟨{ c.withFilledLists with source }, ofDocument_document source hc hpath, rfl, fun day =>
    ⟨isSome_settings? hc.weekStart day, settings?_withFilledLists hkeywords day⟩⟩

/-- Of two lists of keywords, one is without words. -/
theorem ofDocument_document_of_isValid_waiting :
    let c : Config := { tasksFile := some (.ofText "//tasks.json"), weekStartsOn := "sunday"
                        keywords := [("active", []), ("waiting", ["BLOCKED"])] }
    ∃ c', ofDocument c.document none = .ok c' ∧
      c' = { c with keywords := [("waiting", ["BLOCKED"])] } ∧
      ∀ day, (c.settings? day).isSome ∧ c'.settings? day = c.settings? day := by
  intro c
  have hc : c.IsValid := ⟨by decide, by decide, by decide⟩
  refine ofDocument_document_of_isValid none hc ?_ (by decide)
  intro p hp
  rw [← Option.some.inj hp]
  exact PathName.isPath_ofText "//tasks.json"

/-! ## The file -/

/-- Entries that are sections with some of the given names, in their order. -/
def AreSections (names : List String) (entries : Entries) : Prop :=
  ∃ sections, entries = Toml.ofSections sections ∧ (∀ s ∈ sections, Toml.IsFlat s.2) ∧
    (sections.map Prod.fst).Sublist names

/-- No sections at all. -/
theorem areSections_nil (names : List String) : AreSections names [] :=
  ⟨[], rfl, List.forall_mem_nil _, List.nil_sublist names⟩

/-- One section. -/
theorem areSections_singleton {entries : Entries} (h : Toml.IsFlat entries) (name : String) :
    AreSections [name] [(name, .object entries)] :=
  ⟨[(name, entries)], rfl, List.forall_mem_singleton.2 h, List.Sublist.refl _⟩

/-- Sections behind sections. -/
theorem AreSections.append {names more : List String} {front back : Entries}
    (h : AreSections names front) (h' : AreSections more back) :
    AreSections (names ++ more) (front ++ back) := by
  obtain ⟨ss, rfl, hflat, hnames⟩ := h
  obtain ⟨ts, rfl, hflat', hnames'⟩ := h'
  refine ⟨ss ++ ts, List.map_append.symm, ?_, ?_⟩
  · rintro s hs
    rcases List.mem_append.1 hs with hs | hs
    · exact hflat s hs
    · exact hflat' s hs
  · rw [List.map_append]
    exact hnames.append hnames'

/-- The section of paths holds a text. -/
theorem areSections_pathSection (c : Config) : AreSections ["paths"] c.pathSection := by
  unfold pathSection
  split
  · exact areSections_nil _
  · refine areSections_singleton ⟨?_, ?_⟩ _
    · exact List.pairwise_singleton _ _
    · exact List.forall_mem_singleton.2 (.text _)

/-- A section of word lists holds lists of texts. -/
theorem areSections_wordSection (h : (lists.map Prod.fst).Nodup) (name : String) :
    AreSections [name] (wordSection name lists) := by
  unfold wordSection
  split
  · exact areSections_nil _
  · refine areSections_singleton ⟨?_, ?_⟩ _
    · rw [List.map_map]
      exact h.sublist ((List.filter_sublist).map Prod.fst)
    · rintro e he
      obtain ⟨l, -, rfl⟩ := List.mem_map.1 he
      refine .list fun v hv => ?_
      obtain ⟨word, -, rfl⟩ := List.mem_map.1 hv
      exact .text word

/-- The sections that are always there hold truth values and a text. -/
theorem areSections_fixedSections (c : Config) :
    AreSections ["search", "display"] c.fixedSections := by
  have hnames : ["case_sensitive", "week_starts_on", "strict"].Nodup := by decide
  refine (areSections_singleton ⟨?_, ?_⟩ "search").append
    (areSections_singleton ⟨?_, ?_⟩ "display")
  · exact hnames
  · rintro e he
    simp only [List.mem_cons, List.not_mem_nil, or_false] at he
    rcases he with rfl | rfl | rfl
    · exact .bool _
    · exact .text _
    · exact .bool _
  · exact List.pairwise_singleton _ _
  · exact List.forall_mem_singleton.2 (.bool _)

/-- **The document of a configuration is read back from its file**, whatever characters its path,
its names and its words have. -/
theorem read_fileText (hkeywords : (c.keywords.map Prod.fst).Nodup)
    (hpriority : (c.priority.map Prod.fst).Nodup) :
    Toml.read c.fileText.toList = .ok c.document := by
  have hdocument : AreSections (["search", "display"] ++ ["paths"] ++ ["keywords"] ++ ["priority"])
      c.document :=
    (((areSections_fixedSections c).append (areSections_pathSection c)).append
      (areSections_wordSection hkeywords "keywords")).append
        (areSections_wordSection hpriority "priority")
  obtain ⟨sections, heq, hflat, hnames⟩ := hdocument
  rw [fileText, heq]
  exact Toml.read_write (hnames.nodup (by decide)) hflat

/-- **A saved configuration is loaded as it was**, but for the lists without words. -/
theorem ofBytes_fileText (source : PathName) (hc : c.IsValid)
    (hpath : ∀ p, c.tasksFile = some p → p.IsPath) (hkeywords : (c.keywords.map Prod.fst).Nodup)
    (hpriority : (c.priority.map Prod.fst).Nodup) :
    ofBytes source c.fileText.toUTF8 = .ok { c.withFilledLists with source := some source } := by
  have hutf8 : String.fromUTF8? c.fileText.toUTF8 = some c.fileText :=
    dif_pos c.fileText.isValidUTF8
  rw [ofBytes, hutf8]
  simp only [read_fileText hkeywords hpriority]
  exact ofDocument_document (some source) hc hpath

end TaskQuery.Config
