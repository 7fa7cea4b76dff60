import TaskQuery.Command.Run
import TaskQuery.Proofs.Command.Check
import TaskQuery.Proofs.Files.Access

/-!
# Every run

What holds of every run of the program, whatever the command line and the files are.

* `run_isOrderly`: a run ends with a status of at most two or breaks off, and no markup that it
  prints closes a style that is not open.
* `files_run`: a run writes nothing but a starter configuration, and that once.
* `initConfig_keeps`: a file that is there stays, unless it is to be replaced.
-/

namespace TaskQuery.Command

open Terminal

/-! ## Output -/

/-- Output that is made of markup that can be shown, of lines and of drawings. -/
inductive Output.IsShown : Output → Prop
  /-- Nothing is said. -/
  | nothing : IsShown {}
  /-- Markup on the output. -/
  | print {markup : List Char} (width : Nat) (h : isBalanced markup = true) :
      IsShown (.print width markup)
  /-- Markup on the error output. -/
  | complain {markup : List Char} (width : Nat) (h : isBalanced markup = true) :
      IsShown (.complain width markup)
  /-- A line for other programs. -/
  | line (s : List Char) : IsShown (.line s)
  /-- Help. -/
  | lines (help : List String) : IsShown (.lines help)
  /-- A line about a command line that is refused. -/
  | complaint (s : List Char) : IsShown { err := s ++ ['\n'] }
  /-- A table. -/
  | table (t : Table) (width : Nat) : IsShown { out := t.draw width }
  /-- A tree. -/
  | tree {t : Tree} (width : Nat) (h : t.isBalanced = true) : IsShown { out := t.draw width }
  /-- One output after another. -/
  | append {a b : Output} (ha : a.IsShown) (hb : b.IsShown) : IsShown (a ++ b)

namespace Output.IsShown

/-- What is said of each of some things is shown. -/
theorem foldl {α : Type} (say : α → Output) (h : ∀ x, (say x).IsShown) (xs : List α) {o : Output}
    (ho : o.IsShown) : (xs.foldl (fun o x => o ++ say x) o).IsShown := by
  induction xs generalizing o with
  | nil => exact ho
  | cons x xs ih => exact ih (ho.append (h x))

/-- Information can be shown. -/
theorem info (width : Nat) (message : List Char) : (Output.info width message).IsShown :=
  .print width (isBalanced_styled (by decide) message)

/-- News can be shown. -/
theorem success (width : Nat) (message : List Char) : (Output.success width message).IsShown :=
  .print width (isBalanced_styled (by decide) message)

/-- Text in a style and a message behind it can be shown. -/
theorem isBalanced_message {style : String} (h : IsStyleName style.toList) (indent : List Char)
    (hindent : MakesNoTag indent) (title message : List Char) :
    isBalanced (indent ++ (styled style title ++ ' ' :: escape message)) = true := by
  rw [isBalanced, closesOpened_makesNoTag hindent]
  refine closesOpened_styled h title ?_
  have hspace := closesOpened_makesNoTag (s := [' ']) (by decide) [] (escape message)
  exact hspace.trans (isBalanced_escape message)

/-- A warning can be shown. -/
theorem warning (width : Nat) (message : String) : (Output.warning width message).IsShown :=
  .complain width (isBalanced_message (by decide) [] (by decide) _ _)

/-- An error can be shown. -/
theorem error (width : Nat) (message : String) : (Output.error width message).IsShown :=
  .complain width (isBalanced_message (by decide) [] (by decide) _ _)

/-- A hint can be shown. -/
theorem hint (width : Nat) (message : String) : (Output.hint width message).IsShown :=
  .complain width (isBalanced_message (by decide) [' ', ' '] (by decide) _ _)

/-- A caret below a text can be shown. -/
theorem caret (width : Nat) (text : List Char) (position : Nat) :
    (Output.caret width text position).IsShown := by
  have htext : isBalanced (' ' :: ' ' :: escape text) = true := by
    have h := closesOpened_makesNoTag (s := [' ', ' ']) (by decide) [] (escape text)
    exact h.trans (isBalanced_escape text)
  have hcaret : isBalanced (' ' :: ' ' :: List.replicate (min position text.length) ' ' ++
      styled "query.caret" ['^']) = true := by
    have hspaces : MakesNoTag (' ' :: ' ' :: List.replicate (min position text.length) ' ') := by
      rw [← List.replicate_succ, ← List.replicate_succ]
      intro c hc
      rw [List.eq_of_mem_replicate hc]
      decide
    rw [isBalanced, closesOpened_makesNoTag hspaces]
    exact isBalanced_styled (by decide) _
  exact (IsShown.complain width htext).append (.complain width hcaret)

end Output.IsShown

/-! ## Reports -/

/-- A report that ends with a status of at most two, if it does not break off, and says only what
can be shown. -/
structure Report.IsOrderly (r : Report) : Prop where
  /-- The status is at most two. -/
  status_le : ∀ code, r.ending = .status code → code ≤ 2
  /-- What is said can be shown. -/
  isShown : r.output.IsShown

namespace Report.IsOrderly

/-- A report that breaks off says nothing. -/
theorem breaking (cause : Breakdown) : (breaking cause).IsOrderly := ⟨nofun, .nothing⟩

/-- Something that is shown may be said first. -/
theorem after {r : Report} (h : r.IsOrderly) {o : Output} (ho : o.IsShown) :
    (r.after o).IsOrderly := ⟨h.status_le, ho.append h.isShown⟩

/-- A success. -/
theorem of_output {o : Output} (ho : o.IsShown) : ({ output := o } : Report).IsOrderly :=
  ⟨fun code h => by cases h; omega, ho⟩

/-- A failure with a message. -/
theorem failure (s : Session) {status : Nat} (hs : status ≤ 2) (message : String) :
    (s.failure status message).IsOrderly :=
  ⟨fun code h => by cases h; exact hs, .error s.width message⟩

/-- A failure with a message and a hint. -/
theorem failureWithHint (s : Session) {status : Nat} (hs : status ≤ 2) (message hint : String) :
    (s.failureWithHint status message hint).IsOrderly :=
  ⟨fun code h => by cases h; exact hs,
    (Output.IsShown.error s.width message).append (.hint s.width hint)⟩

/-- Help. -/
theorem showing (help : List String) : (showing help).IsOrderly := of_output (.lines help)

/-- A command line that is refused. -/
theorem refusing (usage : String) (why : Refusal) : (refusing usage why).IsOrderly := by
  have hcomplaint (line : String) : (complaining line).IsOrderly :=
    ⟨fun code h => by cases h; omega, .complaint line.toList⟩
  cases why with
  | misused => exact hcomplaint _
  | noValue name => exact hcomplaint _
  | unwantedValue name => exact hcomplaint _
  | badPath e => exact breaking _

end Report.IsOrderly

/-- What a quiet session keeps to itself can be shown. -/
theorem isShown_unlessQuiet (s : Session) {o : Output} (h : o.IsShown) :
    (s.unlessQuiet o).IsShown := by
  rw [Session.unlessQuiet]
  split
  · exact .nothing
  · exact h

/-- What a verbose session adds can be shown. -/
theorem isShown_whenVerbose (s : Session) {o : Output} (h : o.IsShown) :
    (s.whenVerbose o).IsShown := by
  rw [Session.whenVerbose]
  split
  · exact h
  · exact .nothing

/-! ## Commands -/

/-- A check is orderly: its tree is shown only when it can be. -/
theorem check_isOrderly (s : Session) (r : CheckRequest) : (check s r).IsOrderly := by
  have htokens : (if r.tokens then
      ({ out := (tokenTable (Token.scan r.query)).draw s.width } : Output) else {}).IsShown := by
    split
    · exact .table _ _
    · exact .nothing
  refine Report.IsOrderly.after ?_ htokens
  cases Query.parse r.query with
  | error e => exact (Report.IsOrderly.failure s (by decide) _).after (.caret _ _ _)
  | ok q =>
    simp only [verdict]
    split
    · exact .breaking _
    · next hshown =>
      have htree : (if r.tree then
          ({ out := (treeOf q).draw s.width } : Output) else {}).IsShown := by
        cases hr : r.tree with
        | false => exact .nothing
        | true => exact .tree s.width (by simpa [hr] using hshown)
      exact .of_output ((htree.append (isShown_unlessQuiet s (.success _ _))).append (.line _))

/-- The results of a search are shown. -/
theorem isShown_results (width : Nat) (format : Format) (query : String) (tasks : List Task) :
    (results width format query tasks).IsShown := by
  cases format with
  | table => exact (Output.IsShown.info _ _).append (.table _ _)
  | paths => exact .foldl (fun t => .line (Column.place t)) (fun t => .line _) tasks .nothing
  | json => exact .line _

/-- What is said when nothing matches can be shown. -/
theorem isShown_noResults (s : Session) (format : Format) (query : String) :
    (noResults s format query).IsShown := by
  unfold noResults
  split
  · exact .line _
  · exact isShown_unlessQuiet s (.info _ _)

/-- A search that found tasks is orderly. -/
theorem finish_isOrderly (s : Session) (r : SearchRequest) (tasks : List Task) :
    (finish s r tasks).IsOrderly := by
  have hkept (kept : List Task) :
      (if kept.isEmpty then { output := noResults s r.format r.query }
        else if r.format ≠ .json && !kept.all Column.hasPlace then breaking .hugeNumber
        else { output := results s.width r.format r.query kept } : Report).IsOrderly := by
    split
    · exact .of_output (isShown_noResults _ _ _)
    split
    · exact .breaking _
    · exact .of_output (isShown_results _ _ _ _)
  exact hkept _

/-- A search of an export is orderly. -/
theorem searchSource_isOrderly (s : Session) (r : SearchRequest) (order : Option Order) (q : Query)
    (path : PathName) (source : TaskExport.Source) :
    (searchSource s r order q path source).IsOrderly := by
  rw [searchSource]
  split
  · exact .breaking _
  · exact .breaking _
  · exact .breaking _
  · exact .breaking _
  · exact .failure s (by decide) _
  · refine Report.IsOrderly.after ?_ (isShown_whenVerbose s (.info _ _))
    simp only [searchExport]
    split
    · exact .breaking _
    · exact .breaking _
    · exact .failure s (by decide) _
    · split
      · exact .breaking _
      · exact finish_isOrderly _ _ _

/-- A search is orderly. -/
theorem search_ends (s : Session) (r : SearchRequest) : (search s r).Ends Report.IsOrderly := by
  rw [search]
  split
  · exact .failureWithHint s (by decide) _ _
  split
  · exact (Report.IsOrderly.failureWithHint s (by decide) _ _).after (.caret _ _ _)
  split
  · exact .breaking _
  · exact .failureWithHint s (by decide) _ _
  · exact fun state => searchSource_isOrderly _ _ _ _ _ _

/-- Writing a configuration file is orderly. -/
theorem initConfig_ends (s : Session) (r : InitRequest) :
    (initConfig s r).Ends Report.IsOrderly := by
  have hwritten (path : PathName) (tasksFile : Option PathName) :
      (written s path tasksFile).IsShown := by
    refine (Output.IsShown.success _ _).append ?_
    split
    · exact isShown_unlessQuiet s (.info _ _)
    · exact .nothing
  have hstarter (path : PathName) (tasksFile : Option PathName) :
      (writeStarter s path tasksFile).Ends Report.IsOrderly := by
    intro refusal
    cases refusal with
    | some reason => exact .failure s (by decide) _
    | none => exact .of_output (hwritten path tasksFile)
  simp only [initConfig]
  split
  · exact .breaking _
  · intro state
    beta_reduce
    split
    · exact .breaking _
    · split
      · exact .failureWithHint s (by decide) _ _
      split
      · exact .breaking _
      · exact hstarter _ _

/-- What follows from arguments is orderly when the command is. -/
theorem follow_ends {α : Type} (name : CommandName) (line : CommandLine α)
    {act : α → Access Report} (h : ∀ request, (act request).Ends Report.IsOrderly) :
    (follow name line act).Ends Report.IsOrderly := by
  cases line with
  | refused why => exact .refusing _ why
  | help => exact .showing _
  | run request => exact h request

/-- Help is orderly. -/
theorem showHelp_isOrderly (s : Session) (names : List String) : (showHelp s names).IsOrderly := by
  unfold showHelp
  split
  · exact .showing _
  split
  · exact .failure s (by decide) _
  · exact .failure s (by decide) _
  · exact .showing _

/-- A command is orderly. -/
theorem runCommand_ends (s : Session) (name : CommandName) (args : List String) :
    (runCommand s name args).Ends Report.IsOrderly := by
  cases name with
  | search => exact follow_ends _ _ (search_ends s)
  | check => exact follow_ends _ _ fun r => check_isOrderly s r
  | initConfig =>
    refine follow_ends _ _ fun r => (Access.ends_true _).bind fun why _ => ?_
    split
    · exact .refusing _ _
    split
    · exact .refusing _ _
    · exact initConfig_ends s r
  | help => exact follow_ends _ _ fun names => showHelp_isOrderly s names

/-- The end without a configuration is orderly. -/
theorem configFailure_isOrderly (width : Nat) (e : ConfigError) :
    (configFailure width e).IsOrderly := by
  have hfailed (e : ConfigError) : (configFailure.failed width e).IsOrderly :=
    ⟨fun code h => by cases h; decide, (Output.IsShown.error _ _).append (.hint _ _)⟩
  unfold configFailure
  split
  · exact hfailed _
  · exact hfailed _
  · exact .breaking _

/-- The warnings of a configuration can be shown. -/
theorem isShown_warningsOf (width : Nat) (warnings : List ConfigWarning) :
    (warningsOf width warnings).IsShown := by
  have hshown := Output.IsShown.foldl (fun w : ConfigWarning => Output.warning width w.message)
    (fun w => .warning width w.message) warnings .nothing
  rw [warningsOf]
  exact hshown

/-- A command with its configuration is orderly. -/
theorem runConfigured_ends (around : Surroundings) (r : ProgramRequest) (name : CommandName)
    (args : List String) : (runConfigured around r name args).Ends Report.IsOrderly := by
  refine (Access.ends_true _).bind fun loaded _ => ?_
  cases loaded with
  | error e => exact configFailure_isOrderly _ e
  | ok found =>
    refine (runCommand_ends _ name args).bind fun report hreport => ?_
    exact hreport.after (isShown_unlessQuiet _ (isShown_warningsOf _ _))

/-- The end without a command of the given name is orderly. -/
theorem unknownCommand_ends (name : String) (args : List String) :
    (unknownCommand name args).Ends Report.IsOrderly := by
  unfold unknownCommand
  split
  · exact .refusing _ _
  · exact .showing _
  · exact .showing _
  · exact (Access.ends_true _).bind fun why _ => .refusing _ _

/-- Every end of a run is orderly. -/
theorem run_ends (around : Surroundings) (args : List String) :
    (run around args).Ends Report.IsOrderly := by
  unfold run
  split
  · exact .refusing _ _
  · exact .showing _
  · exact .showing _
  · refine (Access.ends_true _).bind fun why _ => ?_
    split
    · exact .refusing _ _
    · exact .refusing _ _
    · split
      · exact unknownCommand_ends _ _
      · exact runConfigured_ends _ _ _ _

/-- **Every run is orderly**: it ends with a status of at most two or breaks off, and no markup that
it prints closes a style that is not open. -/
theorem run_isOrderly (around : Surroundings) (args : List String) (t : FileTree) :
    ((run around args).run t).1.IsOrderly :=
  Access.ends_run (run_ends around args) t

/-! ## Files -/

/-- The text of a starter configuration. -/
def IsStarter (_ : PathName) (content : String) : Prop :=
  ∃ tasksFile, content = Starter.text tasksFile

/-- Looking for the refusal of a path writes nothing. -/
theorem isReader_fileRefusal (path : String) : (fileRefusal path).IsReader := by
  unfold fileRefusal
  split
  · trivial
  · split
    · trivial
    · exact fun state => trivial

/-- Looking for the first refusal writes nothing. -/
theorem isReader_firstRefusal (paths : List String) : (firstRefusal paths).IsReader := by
  induction paths with
  | nil => trivial
  | cons path paths ih =>
    refine (isReader_fileRefusal path).bind fun why => ?_
    cases why with
    | some why => trivial
    | none => exact ih

/-- Loading a configuration writes nothing. -/
theorem isReader_load (path : Option PathName) (f : Config.Folders) :
    (Config.load path f).IsReader := by
  have hvalidate (c : Config) : (c.validate f).IsReader := by
    unfold Config.validate
    split
    · trivial
    · split
      · trivial
      · exact fun state => trivial
  unfold Config.load
  split
  · trivial
  · intro state
    cases state with
    | file content =>
      dsimp only
      split
      · trivial
      · exact hvalidate _
    | _ => trivial

/-- A search writes nothing. -/
theorem isReader_search (s : Session) (r : SearchRequest) : (search s r).IsReader := by
  rw [search]
  split
  · trivial
  split
  · trivial
  split
  · trivial
  · trivial
  · exact fun state => trivial

/-- Writing a configuration file writes a starter configuration. -/
theorem initConfig_writesOnce (s : Session) (r : InitRequest) :
    (initConfig s r).WritesOnce IsStarter := by
  simp only [initConfig]
  split
  · trivial
  · intro state
    beta_reduce
    split
    · trivial
    · split
      · trivial
      split
      · trivial
      · next tasksFile _ => exact ⟨⟨tasksFile, rfl⟩, fun refusal => ⟨_, rfl⟩⟩

/-- A command writes a starter configuration at most. -/
theorem runCommand_writesOnce (s : Session) (name : CommandName) (args : List String) :
    (runCommand s name args).WritesOnce IsStarter := by
  have hfollow {α : Type} (line : CommandLine α) {act : α → Access Report}
      (h : ∀ request, (act request).WritesOnce IsStarter) :
      (follow name line act).WritesOnce IsStarter := by
    cases line with
    | refused why => trivial
    | help => trivial
    | run request => exact h request
  cases name with
  | search => exact hfollow _ fun r => (isReader_search s r).writesOnce
  | check => exact hfollow _ fun r => trivial
  | initConfig =>
    refine hfollow _ fun r => (isReader_firstRefusal r.paths).bind fun why => ?_
    split
    · trivial
    split
    · trivial
    · exact initConfig_writesOnce s r
  | help => exact hfollow _ fun names => trivial

/-- A run writes a starter configuration at most, and that once. -/
theorem run_writesOnce (around : Surroundings) (args : List String) :
    (run around args).WritesOnce IsStarter := by
  have hconfigured (r : ProgramRequest) (name : CommandName) (args : List String) :
      (runConfigured around r name args).WritesOnce IsStarter := by
    refine (isReader_load _ _).bind fun loaded => ?_
    cases loaded with
    | error e => trivial
    | ok found => exact (runCommand_writesOnce _ name args).map _
  have hunknown (name : String) (args : List String) :
      (unknownCommand name args).WritesOnce IsStarter := by
    unfold unknownCommand
    split
    · trivial
    · trivial
    · trivial
    · exact (isReader_firstRefusal _).bind fun why => trivial
  unfold run
  split
  · trivial
  · trivial
  · trivial
  · refine (isReader_firstRefusal _).bind fun why => ?_
    split
    · trivial
    · trivial
    · split
      · exact hunknown _ _
      · exact hconfigured _ _ _

/-- **A run leaves the files as they are, or puts a starter configuration in one place.** -/
theorem files_run (around : Surroundings) (args : List String) (t : FileTree) :
    ((run around args).run t).2 = t ∨ ∃ (path : PathName) (tasksFile : Option PathName),
      t.put? path.parts (Starter.text tasksFile).toUTF8 = some ((run around args).run t).2 := by
  rcases Access.files_run (run_writesOnce around args) t with h | ⟨path, content, hstarter, hput⟩
  · exact .inl h
  · obtain ⟨tasksFile, rfl⟩ := hstarter
    exact .inr ⟨path, tasksFile, hput⟩

/-- **A file that is there is kept** unless it is to be replaced: nothing is written, and the run of
the command ends with status one. -/
theorem initConfig_keeps {s : Session} {r : InitRequest} {t : FileTree} {path : PathName}
    (hforce : r.force = false)
    (hpath : s.folders.resolve
      ((r.output.map PathName.ofText).getD (Config.defaultPath s.folders.home)) = .ok path)
    (hthere : (t.stateOf path).isThere = .ok true) :
    ((initConfig s r).run t).2 = t ∧ ((initConfig s r).run t).1.ending = .status 1 := by
  have hrun : (initConfig s r).run t =
      (s.failureWithHint 1 ("Config file already exists: " ++ path.text)
        "Use --force to overwrite", t) := by
    simp only [initConfig, hpath, Access.run, hthere, hforce]
    rfl
  rw [hrun]
  exact ⟨rfl, rfl⟩

end TaskQuery.Command
