import SearchQuery.Files.Tree
import SearchQuery.Settings.Basic

/-!
# Finding configuration files

Configuration files are looked for in the working directory and in the directories above it, up to
the first one that is marked as a root. The file of the user comes last, unless a root has been met,
the file is among those found before, or no home directory is known.
-/

set_option autoImplicit false

namespace SearchQuery

/-- What a run finds around it. -/
structure Surroundings where
  files : FileTree
  /-- The working directory, as an absolute path. -/
  cwd : Path
  /-- The home directory. An empty path says that none is known. -/
  home : Path
  deriving Repr

inductive SettingsError where
  | unreadable (path : Path) (error : FileError)
  /-- The file has been read, but it is no valid configuration file. -/
  | malformed (path : Path)
  deriving DecidableEq, Repr

namespace SettingsError

/-- The message about settings that cannot be loaded. What is wrong with a malformed file is said by
the given text. -/
def message (detail : String) : SettingsError → String
  | unreadable path error =>
    "failed to read config file " ++ path.text ++ ": " ++ error.message
  | malformed path => "failed to parse config file " ++ path.text ++ ": " ++ detail

end SettingsError

namespace Surroundings

def knowsHome (place : Surroundings) : Bool :=
  place.home.text != ""

/-- Where the file of the user is, provided that the home directory is known. -/
def userFile (place : Surroundings) : Path :=
  place.home.join configFileName

def userFile? (place : Surroundings) : Option Path :=
  if place.knowsHome then some place.userFile else none

/-- Whether a path is that of the file of the user. -/
def isUserFile (place : Surroundings) (path : Path) : Bool :=
  place.userFile?.any path.sameAs

def isFile (place : Surroundings) (path : Path) : Bool :=
  place.files.isFile place.cwd path

def readSettings (place : Surroundings) (path : Path) : Except SettingsError FileSettings :=
  match place.files.read place.cwd path with
  | .error error => .error (.unreadable path error)
  | .ok text =>
    match FileSettings.ofText? text with
    | some settings => .ok settings
    | none => .error (.malformed path)

/-- Whether a path leads to a valid configuration file that is marked as a root. -/
def isRootFile (place : Surroundings) (path : Path) : Bool :=
  match place.readSettings path with
  | .ok settings => settings.isRoot
  | .error _ => false

/-- The configuration files among candidates, up to the first root, and whether there is a root. -/
def takeToRoot (place : Surroundings) : List Path → List Path × Bool
  | [] => ([], false)
  | candidate :: rest =>
    if place.isFile candidate then
      if place.isRootFile candidate then ([candidate], true)
      else
        let (found, rooted) := takeToRoot place rest
        (candidate :: found, rooted)
    else takeToRoot place rest

/-- The configuration files that apply to a directory, the one that applies most closely first. -/
def discover (place : Surroundings) (directory : Path) : List Path :=
  let (found, rooted) :=
    place.takeToRoot (directory.ancestors.map (·.join configFileName))
  if rooted then found
  else found ++ (place.userFile?.filter fun user =>
    place.isFile user && !found.any (·.sameAs user)).toList

def loadFiles (place : Surroundings) (paths : List Path) : Except SettingsError Settings := do
  let files ← paths.mapM fun path => do
    let settings ← place.readSettings path
    pure ({ path, settings } : LoadedFile)
  pure (Settings.merge files)

def load (place : Surroundings) (directory : Path) : Except SettingsError Settings :=
  place.loadFiles (place.discover directory)

end Surroundings

end SearchQuery
