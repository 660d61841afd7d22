import SearchQuery.Text.Pieces

/-!
# Paths

A path is a text of names with slashes between them. Slashes in a row count as one, and so do
slashes with a dot between them; a dot at the very start and a slash there are kept apart from the
names. Two dots are a name like any other here: going up means leaving off the last name, whatever
it is.
-/

set_option autoImplicit false

namespace SearchQuery

structure Path where
  text : String
  deriving DecidableEq, Repr

namespace Path

/-- The segments of a text: what stands between its slashes. -/
def segments (text : List Char) : List (List Char) :=
  Text.pieces '/' text

/-- Whether a segment stands for the directory it is in. -/
def isBlankSegment (segment : List Char) : Bool :=
  segment == [] || segment == ['.']

/-- Splits off what a path starts with: a slash, or a dot that is a segment of its own. -/
def splitLead : List Char → List Char × List Char
  | '/' :: rest => (['/'], rest)
  | ['.'] => (['.'], [])
  | '.' :: '/' :: rest => (['.'], '/' :: rest)
  | text => ([], text)

def names (path : Path) : List (List Char) :=
  (segments (splitLead path.text.toList).2).filter (!isBlankSegment ·)

/-- Whether two paths are the same but for the slashes and dots that do not count. -/
def sameAs (first second : Path) : Bool :=
  (splitLead first.text.toList).1 == (splitLead second.text.toList).1 &&
    first.names == second.names

/-- Drops slashes and dots that do not count from the end of a path, which is given backwards. -/
def dropBlankEnd : List Char → List Char
  | '/' :: rest => dropBlankEnd rest
  | '.' :: '/' :: rest => dropBlankEnd ('/' :: rest)
  | ['.'] => []
  | text => text

/-- The path without its last name, if it has one. A dot at the start counts as a name when it is
the only one. -/
def parent? (path : Path) : Option Path :=
  let (lead, body) := splitLead path.text.toList
  match dropBlankEnd body.reverse with
  | [] => if lead = ['.'] then some ⟨""⟩ else none
  | named =>
    some ⟨String.ofList (lead ++ (dropBlankEnd (named.dropWhile (· != '/'))).reverse)⟩

/-- The given number of paths at most, each without the last name of the one before. -/
def climb : Nat → Path → List Path
  | 0, _ => []
  | count + 1, path =>
    path :: match path.parent? with
      | some parent => climb count parent
      | none => []

/-- A path and all that is left of it on leaving off names, the longest first. -/
def ancestors (path : Path) : List Path :=
  climb (path.text.length + 1) path

def join (directory : Path) (name : String) : Path :=
  match directory.text.toList.getLast? with
  | none | some '/' => ⟨directory.text ++ name⟩
  | some _ => ⟨directory.text ++ "/" ++ name⟩

def isAbsolute (path : Path) : Bool :=
  (splitLead path.text.toList).1 == ['/']

end Path

end SearchQuery
