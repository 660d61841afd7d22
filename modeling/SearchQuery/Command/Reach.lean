import SearchQuery.Command.Call

/-!
# What a run looks at

A run depends on few files: the configuration files in and above the working directory, that of the
user, and the file with the request. Whoever wants to run a command on a real file system has to
look at these, and at the directories on the way to them.
-/

set_option autoImplicit false

namespace SearchQuery

namespace Path

/-- The locations on the way along the segments of a path, from a location on. -/
def locationsFrom : Location → List (List Char) → List Location
  | _, [] => []
  | here, segment :: rest =>
    if isBlankSegment segment then locationsFrom here rest
    else if segment = ['.', '.'] then locationsFrom here.dropLast rest
    else
      let next := here ++ [String.ofList segment]
      next :: locationsFrom next rest

/-- The locations on the way along a path that does not start at the root only if it starts in the
working directory. -/
def locations (cwd path : Path) : List Location :=
  let start := if path.isAbsolute then [] else segments cwd.text.toList
  locationsFrom [] (start ++ segments path.text.toList)

end Path

namespace Invocation

def paths (cwd home : Path) (invocation : Invocation) : List Path :=
  let request := match invocation.command with
    | .inquire (.compile options) => options.requestFile.toList
    | _ => []
  let user := if home.text = "" then [] else [home]
  (cwd.ancestors ++ user).map (·.join configFileName) ++ request

/-- The locations that a run looks at, each after the directory it is in. -/
def locations (cwd home : Path) (invocation : Invocation) : List Location :=
  (invocation.paths cwd home).flatMap (Path.locations cwd)

end Invocation

namespace Call

/-- The locations that a call looks at: none if nothing is run. -/
def locations (call : Call) : List Location :=
  match Invocation.ofArguments? call.arguments with
  | none => []
  | some invocation => invocation.locations call.cwd call.home

end Call

namespace FileTree

/-- The files with a text that differ from those of another tree. -/
def changes (tree before : FileTree) : List (Location × String) :=
  tree.nodes.filterMap fun (location, node) =>
    match node with
    | .file (.text text) =>
      if before.node? location = some node then none else some (location, text)
    | _ => none

end FileTree

def Location.path (location : Location) : String :=
  if location = [] then "/" else location.foldl (fun text name => text ++ "/" ++ name) ""

end SearchQuery
