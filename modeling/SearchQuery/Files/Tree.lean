import SearchQuery.Files.Path

/-!
# File trees

The files and directories that a run of the program finds, each at its location: the names that lead
to it from the root. A path is followed name by name, two dots lead up again, and every name but the
last has to be that of a directory.
-/

set_option autoImplicit false

namespace SearchQuery

inductive Content where
  | text (text : String)
  | binary
  deriving DecidableEq, Repr

inductive Node where
  | file (content : Content)
  | directory
  deriving DecidableEq, Repr

/-- The names that lead from the root to a file or a directory. -/
abbrev Location := List String

inductive FileError where
  | notFound
  | notDirectory
  | isDirectory
  | nameTooLong
  /-- The path holds the character that ends the paths of the system. -/
  | holdsNul
  | notText
  deriving DecidableEq, Repr

namespace FileError

def message : FileError → String
  | notFound => "No such file or directory (os error 2)"
  | notDirectory => "Not a directory (os error 20)"
  | isDirectory => "Is a directory (os error 21)"
  | nameTooLong => "File name too long (os error 36)"
  | holdsNul => "file name contained an unexpected NUL byte"
  | notText => "stream did not contain valid UTF-8"

end FileError

structure FileTree where
  nodes : List (Location × Node)
  deriving DecidableEq, Repr

namespace FileTree

/-- What there is at a location. The root is always a directory. -/
def node? (tree : FileTree) (location : Location) : Option Node :=
  if location = [] then some .directory else tree.nodes.lookup location

def set (tree : FileTree) (location : Location) (node : Node) : FileTree :=
  ⟨(location, node) :: tree.nodes.filter (·.1 != location)⟩

theorem node?_set_self (tree : FileTree) {location : Location} (named : location ≠ [])
    (node : Node) : (tree.set location node).node? location = some node := by
  simp [node?, set, named]

theorem node?_set_other (tree : FileTree) {location other : Location}
    (different : other ≠ location) (node : Node) :
    (tree.set location node).node? other = tree.node? other := by
  have unlike : (other == location) = false := beq_eq_false_iff_ne.mpr different
  have kept (nodes : List (Location × Node)) :
      (nodes.filter (·.1 != location)).lookup other = nodes.lookup other := by
    induction nodes with
    | nil => rfl
    | cons held rest ih =>
      obtain ⟨place, first⟩ := held
      by_cases same : place = location
      · subst same
        simp [List.lookup_cons, ih, unlike]
      · simp [List.lookup_cons, same, ih]
  simp only [node?, set, List.lookup_cons, unlike, kept]

def greatestNameSize : Nat := 255

def greatestPathSize : Nat := 4095

/-- Follows the segments of a path from a location. There need not be anything at the location that
the last one leads to. -/
def follow (tree : FileTree) : Location → List (List Char) → Except FileError Location
  | here, [] => .ok here
  | here, segment :: rest =>
    match tree.node? here with
    | none => .error .notFound
    | some (.file _) => .error .notDirectory
    | some .directory =>
      let name := String.ofList segment
      if Path.isBlankSegment segment then follow tree here rest
      else if name = ".." then follow tree here.dropLast rest
      else if greatestNameSize < name.utf8ByteSize then .error .nameTooLong
      else follow tree (here ++ [name]) rest

/-- The location that a path leads to. A path that does not start at the root starts in the working
directory. -/
def locate (tree : FileTree) (cwd path : Path) : Except FileError Location :=
  if '\x00' ∈ path.text.toList then .error .holdsNul
  else if path.text = "" then .error .notFound
  else if greatestPathSize < path.text.utf8ByteSize then .error .nameTooLong
  else if path.isAbsolute then tree.follow [] (Path.segments path.text.toList)
  else do
    let start ← tree.follow [] (Path.segments cwd.text.toList)
    tree.follow start (Path.segments path.text.toList)

def nodeAt (tree : FileTree) (cwd path : Path) : Except FileError Node := do
  let location ← tree.locate cwd path
  match tree.node? location with
  | some node => .ok node
  | none => .error .notFound

def isFile (tree : FileTree) (cwd path : Path) : Bool :=
  match tree.nodeAt cwd path with
  | .ok (.file _) => true
  | _ => false

def contains (tree : FileTree) (cwd path : Path) : Bool :=
  (tree.nodeAt cwd path).isOk

def read (tree : FileTree) (cwd path : Path) : Except FileError String := do
  match ← tree.nodeAt cwd path with
  | .directory => .error .isDirectory
  | .file .binary => .error .notText
  | .file (.text text) => .ok text

/-- Writes a text to the file that a path leads to, which need not be there yet. -/
def write (tree : FileTree) (cwd path : Path) (text : String) : Except FileError FileTree := do
  let location ← tree.locate cwd path
  match tree.node? location with
  | some .directory => .error .isDirectory
  | _ => .ok (tree.set location (.file (.text text)))

end FileTree

end SearchQuery
