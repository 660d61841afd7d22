import SearchQuery.Files.Path
import SearchQuery.IndexName
import SearchQuery.Settings.File
import SearchQuery.Text.Blank
import SearchQuery.Toml.Writer

/-!
# Settings

The settings of a run come from any number of configuration files. Files that apply more closely
override the others, one setting at a time, and what no file gives has a default.
-/

set_option autoImplicit false

namespace SearchQuery

structure Settings where
  indexName : Option String := none
  /-- The number of results on a page of a request that does not give one. -/
  pageSize : UInt64 := 20
  /-- The log filter of a run that is not given another one. -/
  logLevel : String := "warn"
  /-- The directory of the file that applies most closely, if there is any file. -/
  root : Option Path := none
  deriving DecidableEq, Repr

structure LoadedFile where
  path : Path
  settings : FileSettings
  deriving DecidableEq, Repr

namespace Settings

/-- Settings with those that a file gives in place of their own. -/
def override (settings : Settings) (file : FileSettings) : Settings :=
  { settings with
    indexName := file.indexName.or settings.indexName
    pageSize := file.pageSize.getD settings.pageSize
    logLevel := file.logLevel.getD settings.logLevel }

/-- The settings from a list of files, the one that applies most closely first. -/
def merge (files : List LoadedFile) : Settings :=
  { files.foldr (fun file settings => override settings file.settings) ({} : Settings) with
    root := files.head?.bind (·.path.parent?) }

/-- The name of the index that queries are compiled for. A blank name is none. -/
def index (settings : Settings) : IndexName :=
  match settings.indexName with
  | none => .missing
  | some name =>
    let trimmed := Text.trimmed name
    if trimmed = "" then .missing else .known trimmed

def line (key value : String) : String :=
  key ++ " = " ++ value ++ "\n"

def toToml (settings : Settings) : String :=
  "[index]\n" ++
    (match settings.indexName with
      | none => ""
      | some name => line "name" (Toml.writeString name)) ++
    "\n[search]\n" ++
    line "page_size" (String.ofList (Nat.toDigits 10 settings.pageSize.toNat)) ++
    "\n[log]\n" ++ line "level" (Toml.writeString settings.logLevel)

end Settings

end SearchQuery
