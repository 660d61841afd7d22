import SearchQuery.Proofs.Toml.Statement
import SearchQuery.Settings.Basic

/-!
# Settings survive being written

What is written for settings is a valid configuration file that gives all of them back
(`settings_read_back`), whatever characters the name of the index and the log filter have, and
however large a page is.
-/

set_option autoImplicit false

namespace SearchQuery

open SearchQuery.Toml (Statement readStatements? readStatements?_assign readStatements?_blank
  readStatements?_header writeString writtenValue_natural writtenValue_string)

namespace Settings

/-- The file that gives the settings: all of them but the directory they come from, which is not
written. -/
def asFile (settings : Settings) : FileSettings where
  index := some ⟨settings.indexName⟩
  search := some ⟨some settings.pageSize⟩
  log := some ⟨some settings.logLevel⟩

/-- The statements of the file that is written for settings. -/
def statements (settings : Settings) : List Statement :=
  .header ⟨[], "index"⟩ ::
    (settings.indexName.toList.map fun name => .assign ⟨[], "name"⟩ (.string name)) ++ [
      .header ⟨[], "search"⟩,
      .assign ⟨[], "page_size"⟩ (.integer settings.pageSize.toNat),
      .header ⟨[], "log"⟩,
      .assign ⟨[], "level"⟩ (.string settings.logLevel)]

def assignment (name : String) (value : List Char) (rest : List Char) : List Char :=
  name.toList ++ ' ' :: '=' :: ' ' :: (value ++ '\n' :: rest)

/-- The lines of the file that follow the one with the name of the index. -/
def laterLines (settings : Settings) : List Char :=
  '\n' :: '[' :: ("search".toList ++ ']' :: '\n' ::
    assignment "page_size" (Nat.toDigits 10 settings.pageSize.toNat)
      ('\n' :: '[' :: ("log".toList ++ ']' :: '\n' ::
        assignment "level" (writeString settings.logLevel).toList [])))

theorem toList_line (key value : String) :
    (line key value).toList = assignment key value.toList [] := by
  simp [line, assignment]

theorem toList_toToml (settings : Settings) :
    settings.toToml.toList = '[' :: ("index".toList ++ ']' :: '\n' ::
      match settings.indexName with
      | none => settings.laterLines
      | some name => assignment "name" (writeString name).toList settings.laterLines) := by
  cases isName : settings.indexName with
  | none => simp [toToml, isName, toList_line, laterLines, assignment]
  | some name => simp [toToml, isName, toList_line, laterLines, assignment]

theorem readStatements?_laterLines (settings : Settings) (steps : Nat) :
    readStatements? (steps + 6) settings.laterLines = some [
      .header ⟨[], "search"⟩,
      .assign ⟨[], "page_size"⟩ (.integer settings.pageSize.toNat),
      .header ⟨[], "log"⟩,
      .assign ⟨[], "level"⟩ (.string settings.logLevel)] := by
  rw [laterLines, assignment, assignment, readStatements?_blank, readStatements?_header (by decide),
    readStatements?_assign (by decide) (writtenValue_natural _), readStatements?_blank,
    readStatements?_header (by decide),
    readStatements?_assign (by decide) (writtenValue_string _)]
  cases steps with
  | zero => rfl
  | succ steps => rfl

theorem readStatements?_toToml (settings : Settings) (steps : Nat) :
    readStatements? (steps + 8) settings.toToml.toList = some settings.statements := by
  rw [toList_toToml, readStatements?_header (by decide), statements]
  cases settings.indexName with
  | none =>
    rw [readStatements?_laterLines settings (steps + 1)]
    rfl
  | some name =>
    simp only [assignment]
    rw [readStatements?_assign (by decide) (writtenValue_string _),
      readStatements?_laterLines settings steps]
    rfl

theorem read?_toToml (settings : Settings) :
    Toml.read? settings.toToml.toList = Toml.Document.assemble? settings.statements := by
  -- Each line takes a step, and the first one alone is long enough for all of them.
  have enough : ∃ steps, settings.toToml.toList.length + 1 = steps + 8 := by
    refine ⟨settings.toToml.toList.length - 7, ?_⟩
    have long : 7 ≤ settings.toToml.toList.length := by
      rw [toList_toToml]
      simp
    omega
  obtain ⟨steps, isLength⟩ := enough
  have noMark : Toml.skipMark settings.toToml.toList = settings.toToml.toList := by
    rw [toList_toToml]
    rfl
  rw [Toml.read?, noMark, isLength, readStatements?_toToml, Option.bind_some]

/-- The table of the file that is written for settings. -/
def table (settings : Settings) : Toml.Table :=
  ⟨.header, [
    ("index", .table ⟨.header,
      settings.indexName.toList.map fun name => ("name", .string name)⟩),
    ("search", .table ⟨.header, [("page_size", .integer settings.pageSize.toNat)]⟩),
    ("log", .table ⟨.header, [("level", .string settings.logLevel)]⟩)]⟩

theorem assemble?_statements (settings : Settings) :
    Toml.Document.assemble? settings.statements = some settings.table := by
  rw [statements, table]
  cases settings.indexName with
  | none => rfl
  | some name => rfl

theorem word?_integer (word : UInt64) : Toml.word? (.integer word.toNat) = some word := by
  rw [show (word.toNat : Int) = Int.ofNat word.toNat from rfl, Toml.word?,
    if_pos word.toNat_lt_size, UInt64.ofNat_toNat]

theorem ofTable?_table (settings : Settings) :
    FileSettings.ofTable? settings.table = some settings.asFile := by
  have others : Toml.othersValid ["root", "index", "search", "log"] settings.table = true := rfl
  have root : Toml.entry? settings.table "root" Toml.boolean? = some none := rfl
  have index : Toml.entry? settings.table "index" (Toml.section? "name" Toml.string?) =
      some (some settings.indexName) := by
    rw [table]
    cases settings.indexName with
    | none => rfl
    | some name => rfl
  have search : Toml.entry? settings.table "search" (Toml.section? "page_size" Toml.word?) =
      some (some (some settings.pageSize)) := by
    have word : Toml.entry? settings.table "search" (Toml.section? "page_size" Toml.word?) =
        (((Toml.word? (.integer settings.pageSize.toNat)).map some).map some) := rfl
    rw [word, word?_integer]
    rfl
  have log : Toml.entry? settings.table "log" (Toml.section? "level" Toml.string?) =
      some (some (some settings.logLevel)) := rfl
  rw [FileSettings.ofTable?, others, root, index, search, log]
  rfl

theorem merge_asFile (settings : Settings) (path : Path) :
    merge [⟨path, settings.asFile⟩] = { settings with root := path.parent? } := by
  simp [merge, override, asFile, FileSettings.indexName, FileSettings.pageSize,
    FileSettings.logLevel]

end Settings

/-- Settings survive being written to a configuration file. It is a valid one, and it says of every
setting what it is; so the settings that this file alone gives are the same, and the same index is
taken for queries. -/
theorem settings_read_back (settings : Settings) :
    FileSettings.ofText? settings.toToml = some settings.asFile ∧
    (∀ path : Path,
      Settings.merge [⟨path, settings.asFile⟩] = { settings with root := path.parent? } ∧
      (Settings.merge [⟨path, settings.asFile⟩]).index = settings.index) ∧
    settings.toToml ≠ "" := by
  refine ⟨?_, fun path => ?_, fun isEmpty => ?_⟩
  · rw [FileSettings.ofText?, settings.read?_toToml, settings.assemble?_statements,
      Option.bind_some, settings.ofTable?_table]
  · rw [settings.merge_asFile path]
    exact ⟨rfl, rfl⟩
  · have listed := settings.toList_toToml
    rw [isEmpty] at listed
    exact List.cons_ne_nil _ _ listed.symm

end SearchQuery
