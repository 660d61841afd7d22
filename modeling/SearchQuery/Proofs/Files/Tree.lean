import Mathlib.Tactic.SplitIfs
import SearchQuery.Files.Tree

/-!
# What a path gives of a file tree

What is found at a path is decided by the content of the file it leads to, if it leads to one
(`isFile_eq`, `read_text`, `read_binary`). A tree in which another file has been put at a location,
or the file there has been taken away, gives the same contents at all paths that do not lead to that
location (`DifferAt.content?_eq`).
-/

set_option autoImplicit false

namespace SearchQuery.FileTree

/-- What is in the file that a path leads to, if it leads to a file. -/
def content? (tree : FileTree) (cwd path : Path) : Option Content :=
  match tree.nodeAt cwd path with
  | .ok (.file content) => some content
  | _ => none

theorem isFile_eq (tree : FileTree) (cwd path : Path) :
    tree.isFile cwd path = (tree.content? cwd path).isSome := by
  unfold isFile content?
  cases tree.nodeAt cwd path with
  | error error => rfl
  | ok node => cases node <;> rfl

theorem nodeAt_of_content? {tree : FileTree} {cwd path : Path} {content : Content}
    (found : tree.content? cwd path = some content) :
    tree.nodeAt cwd path = .ok (.file content) := by
  unfold content? at found
  split at found
  · rename_i isNode
    cases found
    exact isNode
  · cases found

theorem read_text {tree : FileTree} {cwd path : Path} {text : String}
    (found : tree.content? cwd path = some (.text text)) : tree.read cwd path = .ok text := by
  rw [read, nodeAt_of_content? found]
  rfl

theorem read_binary {tree : FileTree} {cwd path : Path}
    (found : tree.content? cwd path = some .binary) :
    tree.read cwd path = .error .notText := by
  rw [read, nodeAt_of_content? found]
  rfl

theorem content?_of_read {tree : FileTree} {cwd path : Path} {text : String}
    (succeeds : tree.read cwd path = .ok text) :
    tree.content? cwd path = some (.text text) := by
  unfold read at succeeds
  unfold content?
  cases found : tree.nodeAt cwd path with
  | error error =>
    rw [found] at succeeds
    cases succeeds
  | ok node =>
    rw [found] at succeeds
    cases node with
    | directory => cases succeeds
    | file content =>
      cases content with
      | binary => cases succeeds
      | text other =>
        cases succeeds
        rfl

/-!
## Trees that differ in one file
-/

/-- Two trees are the same but for the file at one location, which may be missing in either. -/
structure DifferAt (location : Location) (first second : FileTree) : Prop where
  elsewhere : ∀ other, other ≠ location → second.node? other = first.node? other
  noDirectory : first.node? location ≠ some .directory
  stillNoDirectory : second.node? location ≠ some .directory

theorem write_eq_ok {tree written : FileTree} {cwd path : Path} {text : String}
    (succeeds : tree.write cwd path text = .ok written) :
    ∃ location, tree.locate cwd path = .ok location ∧ tree.node? location ≠ some .directory ∧
      written = tree.set location (.file (.text text)) := by
  unfold write at succeeds
  cases found : tree.locate cwd path with
  | error error =>
    rw [found] at succeeds
    cases succeeds
  | ok location =>
    rw [found] at succeeds
    simp only [bind, Except.bind] at succeeds
    split at succeeds
    · cases succeeds
    · rename_i noDirectory
      cases succeeds
      exact ⟨location, rfl, noDirectory, rfl⟩

/-- Only the root is a directory without being listed, so that what is no directory has a name. -/
theorem ne_nil_of_not_directory {tree : FileTree} {location : Location}
    (noDirectory : tree.node? location ≠ some .directory) : location ≠ [] := by
  intro isRoot
  subst isRoot
  exact noDirectory (if_pos rfl)

theorem differAt_set {tree : FileTree} {location : Location} {content : Content}
    (noDirectory : tree.node? location ≠ some .directory) :
    DifferAt location tree (tree.set location (.file content)) where
  elsewhere _ different := tree.node?_set_other different _
  noDirectory := noDirectory
  stillNoDirectory := by
    rw [tree.node?_set_self (ne_nil_of_not_directory noDirectory)]
    exact fun same => nomatch same

/-- Writing to a file, or to where there is none, changes nothing but that file. -/
theorem differAt_of_write {tree written : FileTree} {cwd path : Path} {text : String}
    (succeeds : tree.write cwd path text = .ok written) :
    ∃ location, tree.locate cwd path = .ok location ∧ DifferAt location tree written := by
  obtain ⟨location, found, noDirectory, rfl⟩ := write_eq_ok succeeds
  exact ⟨location, found, differAt_set noDirectory⟩

variable {location : Location} {first second : FileTree}

/-- A path stops at what is no directory, whether there is a file or nothing. -/
theorem toOption_follow_of_not_directory {tree : FileTree} {here : Location}
    (noDirectory : tree.node? here ≠ some .directory) (segment : List Char)
    (rest : List (List Char)) : (tree.follow here (segment :: rest)).toOption = none := by
  rw [follow]
  cases found : tree.node? here with
  | none => rfl
  | some node =>
    cases node with
    | file content => rfl
    | directory => exact absurd found noDirectory

theorem DifferAt.toOption_follow (differ : DifferAt location first second) (here : Location)
    (segments : List (List Char)) :
    (second.follow here segments).toOption = (first.follow here segments).toOption := by
  induction segments generalizing here with
  | nil => rfl
  | cons segment rest ih =>
    by_cases reached : here = location
    · subst reached
      rw [toOption_follow_of_not_directory differ.noDirectory,
        toOption_follow_of_not_directory differ.stillNoDirectory]
    · rw [follow, follow, differ.elsewhere here reached]
      split
      · rfl
      · rfl
      · dsimp only
        split_ifs
        · exact ih here
        · exact ih here.dropLast
        · rfl
        · exact ih (here ++ [String.ofList segment])

theorem toOption_bind {Error Value Result : Type} (source : Except Error Value)
    (next : Value → Except Error Result) :
    (source >>= next).toOption = source.toOption.bind fun value => (next value).toOption := by
  cases source <;> rfl

theorem DifferAt.toOption_locate (differ : DifferAt location first second) (cwd path : Path) :
    (second.locate cwd path).toOption = (first.locate cwd path).toOption := by
  unfold locate
  split_ifs
  · rfl
  · rfl
  · rfl
  · exact differ.toOption_follow [] _
  · rw [toOption_bind, toOption_bind, differ.toOption_follow]
    simp only [differ.toOption_follow]

theorem content?_eq_bind (tree : FileTree) (cwd path : Path) :
    tree.content? cwd path = (tree.locate cwd path).toOption.bind fun location =>
      match tree.node? location with
      | some (.file content) => some content
      | _ => none := by
  unfold content? nodeAt
  cases tree.locate cwd path with
  | error error => rfl
  | ok location =>
    simp only [bind, Except.bind, Except.toOption, Option.bind_some]
    cases tree.node? location with
    | none => rfl
    | some node => cases node <;> rfl

/-- The contents of all other files are the same. -/
theorem DifferAt.content?_eq (differ : DifferAt location first second) {cwd path : Path}
    (elsewhere : first.locate cwd path ≠ .ok location) :
    second.content? cwd path = first.content? cwd path := by
  rw [content?_eq_bind, content?_eq_bind, differ.toOption_locate]
  cases found : first.locate cwd path with
  | error error => rfl
  | ok other =>
    have apart : other ≠ location := by
      intro same
      rw [same] at found
      exact elsewhere found
    simp only [Except.toOption, Option.bind_some, differ.elsewhere other apart]

/-- What has been written to a path is read from it. -/
theorem read_of_write {tree written : FileTree} {cwd path : Path} {text : String}
    (succeeds : tree.write cwd path text = .ok written) : written.read cwd path = .ok text := by
  obtain ⟨location, found, noDirectory, rfl⟩ := write_eq_ok succeeds
  have differ : DifferAt location tree (tree.set location (.file (.text text))) :=
    differAt_set noDirectory
  have isWritten := tree.node?_set_self (ne_nil_of_not_directory noDirectory) (.file (.text text))
  apply read_text
  rw [content?_eq_bind, differ.toOption_locate, found]
  simp only [Except.toOption, Option.bind_some, isWritten]

end SearchQuery.FileTree
