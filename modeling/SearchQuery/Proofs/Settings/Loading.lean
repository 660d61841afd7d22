import SearchQuery.Proofs.Files.Tree
import SearchQuery.Proofs.Settings.Discovery

/-!
# What settings depend on

Settings are loaded from what is found, and every file that is found is read twice: to see whether
it is a root, and for what it says. Both depend on nothing but the content of the file. So two file
trees give the same settings, or the same error, if they agree up to a root
(`load_sees_up_to_root`), and an error is always about the first file with a fault.
-/

set_option autoImplicit false

namespace SearchQuery.Surroundings

/-- What is in the file that a path leads to, if it leads to a file. -/
def content? (place : Surroundings) (path : Path) : Option Content :=
  place.files.content? place.cwd path

/-- What is wrong with a configuration file: it is no text, or its text is not valid. -/
def fault? (place : Surroundings) (path : Path) : Option SettingsError :=
  match place.content? path with
  | some .binary => some (.unreadable path .notText)
  | some (.text text) =>
    if (FileSettings.ofText? text).isNone then some (.malformed path) else none
  | none => none

/-- What a configuration file says, if nothing is wrong with it. -/
def given (place : Surroundings) (path : Path) : FileSettings :=
  match place.content? path with
  | some (.text text) => (FileSettings.ofText? text).getD {}
  | _ => {}

theorem isFile_eq (place : Surroundings) (path : Path) :
    place.isFile path = (place.content? path).isSome :=
  place.files.isFile_eq place.cwd path

theorem readSettings_eq {place : Surroundings} {path : Path}
    (isFile : place.isFile path = true) :
    place.readSettings path = match place.fault? path with
      | some error => .error error
      | none => .ok (place.given path) := by
  rw [isFile_eq, Option.isSome_iff_exists] at isFile
  obtain ⟨content, found⟩ := isFile
  unfold readSettings fault? given
  rw [found]
  cases content with
  | binary =>
    rw [FileTree.read_binary found]
  | text text =>
    rw [FileTree.read_text found]
    cases valid : FileSettings.ofText? text <;> simp [valid]

theorem marksRoot_iff (place : Surroundings) (path : Path) :
    place.MarksRoot path ↔ ∃ text settings, place.content? path = some (.text text) ∧
      FileSettings.ofText? text = some settings ∧ settings.root = some true := by
  constructor
  · rintro ⟨text, settings, read, valid, marked⟩
    exact ⟨text, settings, FileTree.content?_of_read read, valid, marked⟩
  · rintro ⟨text, settings, found, valid, marked⟩
    exact ⟨text, settings, FileTree.read_text found, valid, marked⟩

theorem MarksRoot.isFile {place : Surroundings} {path : Path} (marked : place.MarksRoot path) :
    place.isFile path = true := by
  obtain ⟨text, settings, found, _⟩ := (place.marksRoot_iff path).mp marked
  rw [isFile_eq, found]
  rfl

/-!
## Loading what is found
-/

theorem loadFiles_eq {place : Surroundings} {paths : List Path}
    (areFiles : ∀ path ∈ paths, place.isFile path = true) :
    place.loadFiles paths = match paths.findSome? place.fault? with
      | some error => .error error
      | none => .ok (Settings.merge (paths.map fun path => ⟨path, place.given path⟩)) := by
  have each : (paths.mapM fun path => do
      let settings ← place.readSettings path
      pure ({ path, settings } : LoadedFile)) = match paths.findSome? place.fault? with
        | some error => .error error
        | none => .ok (paths.map fun path => ⟨path, place.given path⟩) := by
    -- A fault ends the loading before the files after it are read.
    induction paths with
    | nil => rfl
    | cons path rest ih =>
      have ⟨isFile, restFiles⟩ := List.forall_mem_cons.mp areFiles
      rw [List.mapM_cons, ih restFiles, readSettings_eq isFile, List.findSome?_cons]
      cases place.fault? path with
      | some error => rfl
      | none => cases rest.findSome? place.fault? <;> rfl
  rw [loadFiles, each]
  cases paths.findSome? place.fault? <;> rfl

theorem load_eq (place : Surroundings) (directory : Path) :
    place.load directory = match (place.discover directory).findSome? place.fault? with
      | some error => .error error
      | none => .ok (Settings.merge
          ((place.discover directory).map fun path => ⟨path, place.given path⟩)) :=
  loadFiles_eq fun _ member => isFile_of_mem_discover member

theorem load_eq_error_iff_findSome? (place : Surroundings) (directory : Path)
    (error : SettingsError) :
    place.load directory = .error error ↔
      (place.discover directory).findSome? place.fault? = some error := by
  rw [load_eq]
  cases (place.discover directory).findSome? place.fault? <;> simp

/-!
## Two file trees
-/

section

variable {place : Surroundings} {files : FileTree}

/-- Another file tree has the same content at a path. -/
def SameAt (place : Surroundings) (files : FileTree) (path : Path) : Prop :=
  files.content? place.cwd path = place.content? path

theorem SameAt.isFile {path : Path} (same : place.SameAt files path) :
    ({ place with files }).isFile path = place.isFile path := by
  rw [isFile_eq, isFile_eq, ← same]
  rfl

theorem SameAt.marksRoot_iff {path : Path} (same : place.SameAt files path) :
    ({ place with files }).MarksRoot path ↔ place.MarksRoot path := by
  rw [Surroundings.marksRoot_iff, Surroundings.marksRoot_iff, ← same]
  rfl

theorem SameAt.isRootFile {path : Path} (same : place.SameAt files path) :
    ({ place with files }).isRootFile path = place.isRootFile path := by
  rw [Bool.eq_iff_iff, isRootFile_iff, isRootFile_iff, same.marksRoot_iff]

theorem SameAt.fault? {path : Path} (same : place.SameAt files path) :
    ({ place with files }).fault? path = place.fault? path := by
  unfold Surroundings.fault?
  rw [← same]
  rfl

theorem SameAt.given {path : Path} (same : place.SameAt files path) :
    ({ place with files }).given path = place.given path := by
  unfold Surroundings.given
  rw [← same]
  rfl

theorem takeToRoot_of_sameAt {paths : List Path}
    (same : ∀ path ∈ paths, place.SameAt files path) :
    ({ place with files }).takeToRoot paths = place.takeToRoot paths := by
  induction paths with
  | nil => rfl
  | cons path rest ih =>
    have ⟨here, later⟩ := List.forall_mem_cons.mp same
    rw [takeToRoot, takeToRoot, here.isFile, here.isRootFile, ih later]

end

/-- What is above a root is not looked at. -/
theorem takeToRoot_cut {place : Surroundings} {root : Path} (marked : place.MarksRoot root)
    (before after : List Path) :
    place.takeToRoot (before ++ root :: after) = place.takeToRoot (before ++ [root]) := by
  induction before with
  | nil =>
    rw [List.nil_append, List.nil_append, takeToRoot, takeToRoot, marked.isFile,
      (isRootFile_iff _ _).mpr marked]
    rfl
  | cons path before ih => rw [List.cons_append, List.cons_append, takeToRoot, takeToRoot, ih]

theorem takeToRoot_rooted {place : Surroundings} {root : Path} (marked : place.MarksRoot root)
    (before : List Path) : (place.takeToRoot (before ++ [root])).2 = true := by
  rcases place.takeToRoot_cases (before ++ [root]) with ⟨_, _, _, _, _, _, found⟩ | ⟨noRoots, _⟩
  · rw [found]
  · have member : root ∈ (before ++ [root]).filter place.isFile :=
      List.mem_filter.mpr ⟨List.mem_append_right _ (List.mem_singleton_self root), marked.isFile⟩
    exact absurd marked (noRoots root member)

theorem discover_of_rooted {place : Surroundings} {directory : Path}
    (rooted : (place.takeToRoot (candidates directory)).2 = true) :
    place.discover directory = (place.takeToRoot (candidates directory)).1 := by
  rw [discover_eq]
  dsimp only
  rw [rooted]
  rfl

/-- Settings depend on nothing but the content of the files that are found. -/
theorem load_of_sameAt {place : Surroundings} {files : FileTree} {directory : Path}
    (sameFound : ({ place with files }).discover directory = place.discover directory)
    (same : ∀ path ∈ place.discover directory, place.SameAt files path) :
    ({ place with files }).load directory = place.load directory := by
  have faults : (place.discover directory).findSome? ({ place with files }).fault? =
      (place.discover directory).findSome? place.fault? := by
    rw [← List.head?_filterMap, ← List.head?_filterMap]
    exact congrArg List.head? (List.filterMap_congr fun path member => (same path member).fault?)
  have contents : ((place.discover directory).map fun path =>
      (⟨path, ({ place with files }).given path⟩ : LoadedFile)) =
      (place.discover directory).map fun path => ⟨path, place.given path⟩ :=
    List.map_congr_left fun path member => by rw [(same path member).given]
  rw [load_eq, load_eq, sameFound, faults, contents]

theorem load_of_sameAt_to_root {place : Surroundings} {files : FileTree} {directory root : Path}
    {before after : List Path} (places : candidates directory = before ++ root :: after)
    (marked : place.MarksRoot root)
    (same : ∀ path ∈ before ++ [root], place.SameAt files path) :
    ({ place with files }).load directory = place.load directory := by
  have sameRoot := same root (List.mem_append_right _ (List.mem_singleton_self root))
  have alsoMarked : ({ place with files }).MarksRoot root := sameRoot.marksRoot_iff.mpr marked
  have climb : place.takeToRoot (candidates directory) = place.takeToRoot (before ++ [root]) := by
    rw [places, takeToRoot_cut marked]
  -- The root is one in the other tree too, so that both climbs can be cut off there.
  have sameClimb : ({ place with files }).takeToRoot (candidates directory) =
      place.takeToRoot (candidates directory) := by
    rw [climb, places, takeToRoot_cut alsoMarked, takeToRoot_of_sameAt same]
  have rooted : (place.takeToRoot (candidates directory)).2 = true := by
    rw [climb]
    exact takeToRoot_rooted marked before
  have found := discover_of_rooted rooted
  refine load_of_sameAt ?_ ?_
  · rw [discover_of_rooted (by rw [sameClimb]; exact rooted), sameClimb, found]
  · rw [found, climb]
    exact fun path member => same path (place.takeToRoot_subset _ member)

theorem load_of_sameAt_everywhere {place : Surroundings} {files : FileTree} {directory : Path}
    (same : ∀ path ∈ candidates directory ++ place.userFile?.toList,
      place.SameAt files path) :
    ({ place with files }).load directory = place.load directory := by
  have ⟨sameAbove, sameUser⟩ := List.forall_mem_append.mp same
  have climb := takeToRoot_of_sameAt sameAbove
  refine load_of_sameAt ?_ ?_
  · have isUserFile : ({ place with files }).userFile? = place.userFile? := rfl
    rw [discover_eq, discover_eq, isUserFile]
    dsimp only
    rw [climb]
    cases known : place.userFile? with
    | none => rfl
    | some user =>
      rw [Option.filter_some, Option.filter_some,
        (sameUser user (Option.mem_toList.mpr known)).isFile]
  · exact fun path member => same path (place.discover_subset directory member)

theorem load_of_differAt {place : Surroundings} {files : FileTree} {directory root : Path}
    {before after : List Path} {location : Location}
    (places : candidates directory = before ++ root :: after) (marked : place.MarksRoot root)
    (differ : FileTree.DifferAt location place.files files)
    (elsewhere : ∀ path ∈ before ++ [root], place.files.locate place.cwd path ≠ .ok location) :
    ({ place with files }).load directory = place.load directory :=
  load_of_sameAt_to_root places marked fun path member => differ.content?_eq (elsewhere path member)

/-- Writing to a file that is not looked at for settings changes nothing. -/
theorem load_of_write_apart {place : Surroundings} {files : FileTree} {directory path : Path}
    {text : String} (written : place.files.write place.cwd path text = .ok files)
    (apart : ∀ met ∈ candidates directory ++ place.userFile?.toList,
      place.files.locate place.cwd met ≠ place.files.locate place.cwd path) :
    ({ place with files }).load directory = place.load directory := by
  obtain ⟨location, isLocation, differ⟩ := FileTree.differAt_of_write written
  rw [isLocation] at apart
  exact load_of_sameAt_everywhere fun met isMet => differ.content?_eq (apart met isMet)

/-!
## Faults
-/

theorem readSettings_eq_error_iff {place : Surroundings} {path : Path}
    (isFile : place.isFile path = true) (error : SettingsError) :
    place.readSettings path = .error error ↔ place.fault? path = some error := by
  rw [readSettings_eq isFile]
  cases place.fault? path <;> simp

theorem fault?_eq_none_iff {place : Surroundings} {path : Path}
    (isFile : place.isFile path = true) :
    place.fault? path = none ↔ ∃ settings, place.readSettings path = .ok settings := by
  rw [readSettings_eq isFile]
  cases place.fault? path <;> simp

theorem readSettings_fails_iff (place : Surroundings) (path : Path) :
    (∃ error, place.readSettings path = .error error) ↔
      ∀ text, place.files.read place.cwd path = .ok text → FileSettings.ofText? text = none := by
  unfold readSettings
  cases place.files.read place.cwd path with
  | error error => simp
  | ok text => cases valid : FileSettings.ofText? text <;> simp [valid]

theorem load_eq_error_iff (place : Surroundings) (directory : Path) (error : SettingsError) :
    place.load directory = .error error ↔
      ∃ before file after, place.discover directory = before ++ file :: after ∧
        place.readSettings file = .error error ∧
        ∀ earlier ∈ before, ∃ settings, place.readSettings earlier = .ok settings := by
  have areFiles : ∀ file ∈ place.discover directory, place.isFile file = true :=
    fun _ member => isFile_of_mem_discover member
  rw [load_eq_error_iff_findSome?, List.findSome?_eq_some_iff]
  refine exists_congr fun before => exists_congr fun file => exists_congr fun after => ?_
  refine and_congr_right fun found => ?_
  rw [found, List.forall_mem_append, List.forall_mem_cons] at areFiles
  rw [readSettings_eq_error_iff areFiles.2.1]
  exact and_congr_right fun _ => forall₂_congr fun earlier member =>
    fault?_eq_none_iff (areFiles.1 earlier member)

theorem load_fails_iff (place : Surroundings) (directory : Path) :
    (∃ error, place.load directory = .error error) ↔
      ∃ file ∈ place.discover directory,
        ∀ text, place.files.read place.cwd file = .ok text →
          FileSettings.ofText? text = none := by
  have fails : (∃ error, place.load directory = .error error) ↔
      ((place.discover directory).findSome? place.fault?).isSome = true := by
    rw [Option.isSome_iff_exists]
    exact exists_congr fun error => place.load_eq_error_iff_findSome? directory error
  rw [fails, List.findSome?_isSome_iff]
  refine exists_congr fun file => and_congr_right fun member => ?_
  rw [← readSettings_fails_iff, Option.isSome_iff_exists]
  exact exists_congr fun error =>
    (readSettings_eq_error_iff (isFile_of_mem_discover member) error).symm

/-- A root shuts off what is above it. Loading gives the same, settings or an error, in two file
trees with the same contents up to a root, or everywhere if there is no root; so it does not matter
what is done to a file that the climb to a root does not meet. Loading fails if a file that is found
has a fault, and with the fault of the first such file. -/
theorem load_sees_up_to_root (place : Surroundings) (directory : Path) :
    let places := directory.ancestors.map (·.join configFileName)
    (∀ files before root after, places = before ++ root :: after → place.MarksRoot root →
      (∀ path ∈ before ++ [root], place.SameAt files path) →
      ({ place with files }).load directory = place.load directory) ∧
    (∀ files, (∀ path ∈ places ++ place.userFile?.toList, place.SameAt files path) →
      ({ place with files }).load directory = place.load directory) ∧
    (∀ files location before root after, places = before ++ root :: after →
      place.MarksRoot root → FileTree.DifferAt location place.files files →
      (∀ path ∈ before ++ [root], place.files.locate place.cwd path ≠ .ok location) →
      ({ place with files }).load directory = place.load directory) ∧
    (∀ error, place.load directory = .error error ↔
      ∃ before file after, place.discover directory = before ++ file :: after ∧
        place.readSettings file = .error error ∧
        ∀ earlier ∈ before, ∃ settings, place.readSettings earlier = .ok settings) ∧
    ((∃ error, place.load directory = .error error) ↔
      ∃ file ∈ place.discover directory,
        ∀ text, place.files.read place.cwd file = .ok text →
          FileSettings.ofText? text = none) :=
  ⟨fun _ _ _ _ places marked same => load_of_sameAt_to_root places marked same,
    fun _ same => load_of_sameAt_everywhere same,
    fun _ _ _ _ _ places marked differ elsewhere => load_of_differAt places marked differ elsewhere,
    fun error => place.load_eq_error_iff directory error, place.load_fails_iff directory⟩

/-- A project with a root, in a directory without one. -/
def rootedProject : Surroundings where
  files := ⟨[(["work"], .directory), (["work", "app"], .directory),
    (["work", "app", "src"], .directory), (["home"], .directory),
    (["work", "app", ".ftq.toml"], .file (.text "root = true\n[index]\nname = \"app\"\n")),
    (["home", ".ftq.toml"], .file (.text "[log]\nlevel = \"info\"\n"))]⟩
  cwd := ⟨"/work/app/src"⟩
  home := ⟨"/home"⟩

/-- A broken file above a root, and another file of the user, change nothing. -/
theorem load_sees_up_to_root_above :
    let files : FileTree := ⟨(["work", ".ftq.toml"], .file .binary) ::
      (["home", ".ftq.toml"], .file (.text "[index]\nname = \"other\"\n")) ::
      rootedProject.files.nodes⟩
    ({ rootedProject with files }).load ⟨"/work/app/src"⟩ =
      rootedProject.load ⟨"/work/app/src"⟩ ∧
    (rootedProject.load ⟨"/work/app/src"⟩).toOption =
      some { indexName := some "app", root := some ⟨"/work/app"⟩ } := by
  refine ⟨(load_sees_up_to_root rootedProject ⟨"/work/app/src"⟩).1 _
    [⟨"/work/app/src/.ftq.toml"⟩] ⟨"/work/app/.ftq.toml"⟩
    [⟨"/work/.ftq.toml"⟩, ⟨"/.ftq.toml"⟩] (by decide) ?_ ?_, by decide +kernel⟩
  · exact (isRootFile_iff _ _).mp (by decide +kernel)
  · unfold SameAt
    decide +kernel

end SearchQuery.Surroundings
