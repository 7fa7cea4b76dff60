import TaskQuery.Config.Reader
import TaskQuery.Config.Starter
import TaskQuery.Proofs.Toml.Lines
import TaskQuery.Result

/-!
# The starter configuration is read back

A starter configuration says what no configuration says, apart from the path of the task export:
every other option has its default.  The path is written as a JSON string, so that the file is no
TOML when a character of the path lies outside the basic plane.

* `lines`: the text, line by line, with what each line means.
* `document`, `read_text`: what the text says as TOML.
* `config`, `ofBytes_text`: what it sets as a configuration.
* `load_written`: when the file is refused, and what is read when it is not.
-/

namespace TaskQuery.Starter

open Toml

/-! ## Lines -/

/-- The line for the path of the task export. -/
def pathLine : Option PathName → Line
  | none => .note tasksFileLine
  | some p => .setting "tasks_file" (.quoted p.text) ""

/-- The lines before that line. -/
def headLines : List Line := [
  .note "# todo-search configuration",
  .note "# Location: ~/.config/todo-search/config.toml",
  .note "",
  .heading "paths",
  .note "# JSON task export searched when --tasks is not given"]

/-- The lines after that line. -/
def tailLines : List Line := [
  .note "",
  .heading "search",
  .note "# Match free text case-sensitively",
  .setting "case_sensitive" (.flag false) "",
  .note "",
  .note "# First day of the week for \"this week\" / \"next week\": \"monday\" or \"sunday\"",
  .setting "week_starts_on" (.quoted "monday") "",
  .note "",
  .note "# Fail on unknown fields and unparseable dates instead of treating",
  .note "# the filter as a non-match",
  .setting "strict" (.flag false) "",
  .note "",
  .heading "display",
  .setting "colored_output" (.flag true) "",
  .note "",
  .note "# Extra state keywords, added to the builtin ones.",
  .note "# state:<group> matches every keyword in the group.",
  .heading "keywords",
  .setting "active" .empty "      # builtin: DOING, NOW, IN-PROGRESS",
  .setting "inactive" .empty "    # builtin: TODO, LATER",
  .setting "waiting" .empty "     # builtin: WAIT, WAITING",
  .setting "completed" .empty "   # builtin: DONE, CANCELLED, CANCELED",
  .setting "archived" .empty "    # builtin: ARCHIVED",
  .note "",
  .note "# Extra spellings accepted by priority:<value>",
  .heading "priority",
  .setting "high" .empty "        # builtin: high, a",
  .setting "med" .empty "         # builtin: med, medium, b",
  .setting "low" .empty "         # builtin: low, c"]

/-- The lines of a starter configuration. -/
def lines (tasksFile : Option PathName) : List Line := headLines ++ pathLine tasksFile :: tailLines

/-- The lines in front of the path are those of the text. -/
theorem map_written_headLines : headLines.map Line.written = head := by rfl

/-- The lines behind the path are those of the text. -/
theorem map_written_tailLines : tailLines.map Line.written = tail := by rfl

/-- The text is its lines, each with a line feed. -/
theorem text_eq_join (tasksFile : Option PathName) :
    text tasksFile =
      String.join ((head ++ (pathLine tasksFile).written :: tail).map (· ++ "\n")) := by
  cases tasksFile with
  | none => rfl
  | some p =>
    have hline : (pathLine (some p)).written = tasksFileSetting p.text := by
      simp [pathLine, Line.written, Spelling.written, tasksFileSetting]
    rw [hline]
    rfl

/-- The characters of the text are those of its lines. -/
theorem toList_text (tasksFile : Option PathName) :
    (text tasksFile).toList = Line.text (lines tasksFile) := by
  have hlines : head ++ (pathLine tasksFile).written :: tail =
      (lines tasksFile).map Line.written := by
    rw [← map_written_headLines, ← map_written_tailLines, ← List.map_cons, ← List.map_append]
    rfl
  rw [text_eq_join, hlines, String.toList_join, Line.text, List.flatMap_map, List.flatMap_map]
  simp only [String.toList_append]
  rfl

/-- Every line of a starter configuration can be read. -/
theorem isReadable_of_mem {tasksFile : Option PathName} {l : Line} (h : l ∈ lines tasksFile) :
    l.isReadable = true := by
  have hhead : ∀ l ∈ headLines, l.isReadable = true := by decide +kernel
  have htail : ∀ l ∈ tailLines, l.isReadable = true := by decide +kernel
  have hpath : (pathLine tasksFile).isReadable = true := by
    cases tasksFile <;> rfl
  rcases List.mem_append.1 h with h | h
  · exact hhead l h
  · rcases List.mem_cons.1 h with rfl | h
    · exact hpath
    · exact htail l h

/-! ## What a starter configuration says -/

/-- The sections behind the one for paths. -/
def sections : Entries := [
  ("search", .object [
    ("case_sensitive", .bool false), ("week_starts_on", .text "monday"), ("strict", .bool false)]),
  ("display", .object [("colored_output", .bool true)]),
  ("keywords", .object (Config.groupNames.map (·, .list []))),
  ("priority", .object (Config.priorityNames.map (·, .list [])))]

/-- The section for paths. -/
def paths (tasksFile : Option PathName) : Entries :=
  (tasksFile.map fun p => ("tasks_file", .text p.text)).toList

/-- The document of a starter configuration. -/
def document (tasksFile : Option PathName) : Entries :=
  ("paths", .object (paths tasksFile)) :: sections

/-- Whether a character of the path is written as a pair of code units. -/
def hasPair (tasksFile : Option PathName) : Bool :=
  tasksFile.any fun p => p.text.toList.any Json.isPaired

/-- The section for paths is opened first. -/
theorem foldlM_headLines :
    headLines.foldlM Line.apply ⟨[], [], [], [], []⟩ =
      .ok ⟨[("paths", .object [])], ["paths"], [], [["paths"]], []⟩ := by
  rfl

/-- The line for the path fills that section, or is refused. -/
theorem apply_pathLine (tasksFile : Option PathName) :
    (pathLine tasksFile).apply ⟨[("paths", .object [])], ["paths"], [], [["paths"]], []⟩ =
      if hasPair tasksFile then .error .malformed
      else .ok ⟨[("paths", .object (paths tasksFile))], ["paths"], [], [["paths"]], []⟩ := by
  cases tasksFile with
  | none => rfl
  | some p =>
    rw [pathLine, Line.apply, Spelling.meaning, hasPair, Option.any_some]
    split <;> rfl

/-- The document once the sections for searching and for the display are filled. -/
def displayed (entries : Entries) : Document where
  root := ("paths", .object entries) :: sections.take 2
  header := ["display"]
  opened := [["display"], ["search"], ["paths"]]

/-- These two sections are added behind the one for paths. -/
theorem foldlM_take_tailLines (entries : Entries) :
    (tailLines.take 14).foldlM Line.apply
      ⟨[("paths", .object entries)], ["paths"], [], [["paths"]], []⟩ = .ok (displayed entries) := by
  rfl

/-- The sections for keywords and priorities are added behind them. -/
theorem foldlM_drop_tailLines (entries : Entries) :
    ((tailLines.drop 14).foldlM Line.apply (displayed entries)).map Document.root =
      .ok (("paths", .object entries) :: sections) := by
  rfl

/-- All sections are added behind the one for paths. -/
theorem foldlM_tailLines (entries : Entries) :
    (tailLines.foldlM Line.apply ⟨[("paths", .object entries)], ["paths"], [], [["paths"]], []⟩).map
      Document.root = .ok (("paths", .object entries) :: sections) := by
  rw [← List.take_append_drop 14 tailLines, List.foldlM_append, foldlM_take_tailLines, ok_bind]
  exact foldlM_drop_tailLines entries

/-- A starter configuration is read as its document, unless a character of the path is written as
a pair: then it is no TOML. -/
theorem read_text (tasksFile : Option PathName) :
    Toml.read (text tasksFile).toList =
      if hasPair tasksFile then .error .malformed else .ok (document tasksFile) := by
  rw [toList_text, Toml.read_text fun l => isReadable_of_mem, lines,
    List.foldlM_append, foldlM_headLines]
  simp only [bind, Except.bind, List.foldlM_cons, apply_pathLine]
  cases hasPair tasksFile with
  | true => rfl
  | false => exact foldlM_tailLines (paths tasksFile)

/-! ## The configuration -/

/-- What a starter configuration sets: every option to its default, and the path. -/
def config (tasksFile : Option PathName) (source : PathName) : Config where
  tasksFile := tasksFile.map (.ofText ·.text)
  keywords := Config.groupNames.map (·, [])
  priority := Config.priorityNames.map (·, [])
  source := some source

/-- The document of a starter configuration is read as what it sets. -/
theorem ofDocument_document (tasksFile : Option PathName) (source : PathName) :
    Config.ofDocument (document tasksFile) (some source) = .ok (config tasksFile source) := by
  cases tasksFile <;> rfl

/-- The file of a starter configuration is loaded, unless it is no TOML. -/
theorem ofBytes_text (tasksFile : Option PathName) (source : PathName) :
    Config.ofBytes source (text tasksFile).toUTF8 =
      if hasPair tasksFile then .error (.unreadable source Config.notToml)
      else .ok (config tasksFile source) := by
  have hutf8 : String.fromUTF8? (text tasksFile).toUTF8 = some (text tasksFile) :=
    dif_pos (text tasksFile).isValidUTF8
  rw [Config.ofBytes, hutf8]
  simp only [read_text]
  cases hasPair tasksFile with
  | true => rfl
  | false => exact ofDocument_document tasksFile source

/-- A check of settings finds no fault with the file that they were read from. -/
theorem checked_ne_unreadable (c : Config) (isThere : Bool) (path : PathName) (detail : String) :
    c.checked isThere ≠ .error (.unreadable path detail) := by
  rw [Config.checked, Config.checkWeekStart]
  split <;> exact fun h => nomatch h

/-- Validating settings finds no fault with the file that they were read from. -/
theorem run_validate_ne_unreadable (c : Config) (f : Config.Folders) (t : FileTree)
    (path : PathName) (detail : String) :
    ((c.validate f).run t).1 ≠ .error (.unreadable path detail) := by
  unfold Config.validate
  split
  · exact fun h => nomatch h
  · split
    · exact checked_ne_unreadable _ true path detail
    · rw [Access.run, Access.run]
      split
      · exact fun h => nomatch h
      · next isThere _ => exact checked_ne_unreadable _ isThere path detail

/-- The file of a starter configuration is TOML, and is not refused when it is loaded, exactly if
no character of the path is written as a pair of code units.  What is read is then what a starter
configuration without a path says, and the path. -/
theorem load_written (p source : PathName) (f : Config.Folders) (t : FileTree)
    (hfile : t.stateOf source = .file (text (some p)).toUTF8) :
    Toml.read (text none).toList = .ok (document none) ∧
    Toml.read (text (some p)).toList =
      (if hasPair (some p) then .error .malformed else .ok (document (some p))) ∧
    ((∃ path detail, ((Config.loadResolved source f).run t).1 = .error (.unreadable path detail)) ↔
      hasPair (some p) = true) := by
  refine ⟨read_text none, read_text (some p), ?_⟩
  rw [Config.loadResolved, Access.run, hfile]
  simp only [ofBytes_text]
  cases hpair : hasPair (some p) with
  | true => exact ⟨fun _ => rfl, fun _ => ⟨source, Config.notToml, rfl⟩⟩
  | false =>
    refine ⟨?_, fun h => absurd h Bool.false_ne_true⟩
    rintro ⟨path, detail, h⟩
    exact absurd h (run_validate_ne_unreadable _ f t path detail)

/-- A file for a path with an emoji is refused. -/
theorem load_written_emoji :
    let p : PathName := ⟨1, ["😀.json"]⟩
    let source : PathName := ⟨1, ["config.toml"]⟩
    let t : FileTree := ⟨[], [], [(["config.toml"], (text (some p)).toUTF8)], ""⟩
    t.stateOf source = .file (text (some p)).toUTF8 ∧
    ∃ path detail,
      ((Config.loadResolved source ⟨⟨1, []⟩, ⟨1, []⟩⟩).run t).1 = .error (.unreadable path detail) :=
  ⟨rfl, (load_written ⟨1, ["😀.json"]⟩ ⟨1, ["config.toml"]⟩ ⟨⟨1, []⟩, ⟨1, []⟩⟩ _ rfl).2.2.2
    (by decide)⟩

end TaskQuery.Starter
