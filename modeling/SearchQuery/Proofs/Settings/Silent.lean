import SearchQuery.Proofs.Files.Location
import SearchQuery.Proofs.Settings.Precedence

/-!
# Files that say nothing

A configuration file that says nothing may appear where there was nothing before. It is found from
wherever it applies, and all else that was found is found again, in the same order
(`discover_eq_filter`). It has no fault and gives no setting, so the settings stay as they were, but
for the directory they come from (`load_of_silent`).
-/

set_option autoImplicit false

namespace SearchQuery

/-- One tree has a configuration file that says nothing where the other has nothing. -/
structure FileTree.AddsSilent (location : Location) (before after : FileTree) : Prop
    extends DifferAt location before after where
  absent : before.node? location = none
  silent : ∃ text, after.node? location = some (.file (.text text)) ∧
    FileSettings.ofText? text = some {}

namespace Settings

/-- The settings without the directory they come from. -/
def unplaced (settings : Settings) : Settings :=
  { settings with root := none }

end Settings

namespace Surroundings

open FileTree (AddsSilent)

theorem isFile_of_mem_takeToRoot {place : Surroundings} {paths : List Path} {path : Path}
    (member : path ∈ (place.takeToRoot paths).1) : place.isFile path = true := by
  rcases place.takeToRoot_cases paths with ⟨before, root, after, files, _, _, found⟩ | ⟨_, found⟩
  · rw [found] at member
    refine (List.mem_filter.mp (?_ : path ∈ paths.filter place.isFile)).2
    rw [files, List.append_cons]
    exact List.mem_append_left after member
  · rw [found] at member
    exact (List.mem_filter.mp member).2

theorem locate_of_isFile {place : Surroundings} {path : Path} (isFile : place.isFile path = true) :
    ∃ location content, place.files.locate place.cwd path = .ok location ∧
      place.files.node? location = some (.file content) := by
  rw [isFile_eq, Option.isSome_iff_exists] at isFile
  obtain ⟨content, found⟩ := isFile
  rw [content?, FileTree.content?_eq_bind] at found
  cases leads : place.files.locate place.cwd path with
  | error error =>
    rw [leads] at found
    cases found
  | ok location =>
    rw [leads] at found
    simp only [Except.toOption, Option.bind_some] at found
    split at found
    · rename_i held
      exact ⟨location, _, rfl, held⟩
    · cases found

/-- In another file tree a path leads to a file that says nothing, and in this one to no file. -/
structure IsNew (place : Surroundings) (files : FileTree) (path : Path) : Prop where
  absent : place.content? path = none
  silent : ∃ text, ({ place with files }).content? path = some (.text text) ∧
    FileSettings.ofText? text = some {}

section

variable {place : Surroundings} {files : FileTree} {path : Path}

theorem IsNew.wasNoFile (new : place.IsNew files path) : place.isFile path = false := by
  rw [isFile_eq, new.absent]
  rfl

theorem IsNew.isFile (new : place.IsNew files path) :
    ({ place with files }).isFile path = true := by
  obtain ⟨text, found, _⟩ := new.silent
  rw [isFile_eq, found]
  rfl

theorem IsNew.isRootFile (new : place.IsNew files path) :
    ({ place with files }).isRootFile path = false := by
  obtain ⟨text, found, silent⟩ := new.silent
  apply (isRootFile_eq_false_iff _ _).mpr
  intro marked
  obtain ⟨other, settings, isContent, valid, isRoot⟩ := (marksRoot_iff _ _).mp marked
  cases found.symm.trans isContent
  cases silent.symm.trans valid
  cases isRoot

theorem IsNew.fault? (new : place.IsNew files path) :
    ({ place with files }).fault? path = none := by
  obtain ⟨text, found, silent⟩ := new.silent
  unfold Surroundings.fault?
  rw [found]
  simp [silent]

theorem IsNew.given (new : place.IsNew files path) :
    ({ place with files }).given path = {} := by
  obtain ⟨text, found, silent⟩ := new.silent
  unfold Surroundings.given
  rw [found]
  simp [silent]

end

section

variable {place : Surroundings} {files : FileTree} {location : Location}
  (adds : AddsSilent location place.files files)

include adds

/-- A path that leads to the location leads to what is new, and all others see the same. -/
theorem sameAt_or_isNew (path : Path) :
    place.SameAt files path ∨
      (place.IsNew files path ∧ place.files.locate place.cwd path = .ok location) := by
  by_cases leads : place.files.locate place.cwd path = .ok location
  · have alsoLeads := adds.toOption_locate place.cwd path
    obtain ⟨text, isWritten, silent⟩ := adds.silent
    refine .inr ⟨⟨?_, text, ?_, silent⟩, leads⟩
    · rw [content?, FileTree.content?_eq_bind, leads]
      simp only [Except.toOption, Option.bind_some, adds.absent]
    · rw [leads] at alsoLeads
      rw [content?, FileTree.content?_eq_bind, alsoLeads]
      simp only [Except.toOption, Option.bind_some, isWritten]
  · exact .inl (adds.content?_eq leads)

theorem takeToRoot_eq_filter (paths : List Path) :
    place.takeToRoot paths =
      ((({ place with files }).takeToRoot paths).1.filter place.isFile,
        (({ place with files }).takeToRoot paths).2) := by
  induction paths with
  | nil => rfl
  | cons path rest ih =>
    unfold takeToRoot
    cases sameAt_or_isNew adds path with
    | inl same =>
      rw [same.isFile, same.isRootFile]
      cases isFile : place.isFile path with
      | false => exact ih
      | true =>
        cases place.isRootFile path with
        | true => simp [isFile]
        | false => simp [isFile, ih]
    | inr new => simp [new.1.wasNoFile, new.1.isFile, new.1.isRootFile, ih]

theorem isFile_of_sameAs_userFile {path : Path}
    (wasFile : place.isFile place.userFile = true)
    (isFile : ({ place with files }).isFile path = true)
    (isUser : path.sameAs place.userFile = true) : place.isFile path = true := by
  cases sameAt_or_isNew adds path with
  | inl same => rwa [← same.isFile]
  | inr new =>
    -- What is new would have to be where the file of the user has been all along.
    obtain ⟨other, content, leads, held⟩ := locate_of_isFile wasFile
    cases FileTree.location_unique isUser new.2 leads
    cases held.symm.trans adds.absent

theorem any_sameAs_userFile {found : List Path} (wasFile : place.isFile place.userFile = true)
    (areFiles : ∀ path ∈ found, ({ place with files }).isFile path = true) :
    (found.filter place.isFile).any (·.sameAs place.userFile) =
      found.any (·.sameAs place.userFile) := by
  rw [Bool.eq_iff_iff, List.any_eq_true, List.any_eq_true]
  constructor
  · rintro ⟨path, member, isUser⟩
    exact ⟨path, (List.mem_filter.mp member).1, isUser⟩
  · rintro ⟨path, member, isUser⟩
    have wasThere := isFile_of_sameAs_userFile adds wasFile (areFiles path member) isUser
    exact ⟨path, List.mem_filter.mpr ⟨member, wasThere⟩, isUser⟩

/-- What was found before is what is found now and was there before. -/
theorem discover_eq_filter (directory : Path) :
    place.discover directory =
      (({ place with files }).discover directory).filter place.isFile := by
  have climbed := takeToRoot_eq_filter adds (candidates directory)
  have after : ({ place with files }).discover directory =
      let climb := ({ place with files }).takeToRoot (candidates directory)
      if climb.2 then climb.1
      else climb.1 ++ (place.userFile?.filter fun user =>
        ({ place with files }).isFile user && !climb.1.any (·.sameAs user)).toList :=
    rfl
  have areFiles : ∀ path ∈ (({ place with files }).takeToRoot (candidates directory)).1,
      ({ place with files }).isFile path = true :=
    fun _ member => isFile_of_mem_takeToRoot member
  rw [discover_eq, after, climbed]
  generalize ({ place with files }).takeToRoot (candidates directory) = climb at areFiles
  obtain ⟨found, rooted⟩ := climb
  dsimp only at areFiles ⊢
  cases rooted with
  | true => rfl
  | false =>
  rw [if_neg Bool.false_ne_true, if_neg Bool.false_ne_true, List.filter_append,
    toList_filter_userFile?, toList_filter_userFile?]
  refine congrArg (found.filter place.isFile ++ ·) ?_
  cases wasFile : place.isFile place.userFile with
  | false =>
    rw [Bool.false_and, if_neg (fun unlisted => Bool.false_ne_true unlisted.2)]
    split
    · simp [wasFile]
    · rfl
  | true =>
    have stillFile : ({ place with files }).isFile place.userFile = true := by
      cases sameAt_or_isNew adds place.userFile with
      | inl same => rw [same.isFile, wasFile]
      | inr new => exact new.1.isFile
    rw [stillFile, any_sameAs_userFile adds wasFile areFiles]
    split
    · simp [wasFile]
    · rfl

/-- What files say one by one, the first that says anything: new files have no part in it. -/
theorem findSome?_discover {Value : Type} {directory : Path} {before after : Path → Option Value}
    (kept : ∀ path, place.SameAt files path → after path = before path)
    (silent : ∀ path, place.IsNew files path → after path = none) :
    (({ place with files }).discover directory).findSome? after =
      (place.discover directory).findSome? before := by
  rw [discover_eq_filter adds, ← List.head?_filterMap, ← List.head?_filterMap,
    List.filterMap_filter]
  refine congrArg List.head? (List.filterMap_congr fun path member => ?_)
  cases sameAt_or_isNew adds path with
  | inl same =>
    rw [← same.isFile, isFile_of_mem_discover member, if_pos rfl]
    exact kept path same
  | inr new =>
    rw [new.1.wasNoFile, if_neg Bool.false_ne_true]
    exact silent path new.1

theorem load_of_silent (directory : Path) :
    (({ place with files }).load directory).map Settings.unplaced =
      (place.load directory).map Settings.unplaced := by
  have faults : (({ place with files }).discover directory).findSome?
      ({ place with files }).fault? = (place.discover directory).findSome? place.fault? :=
    findSome?_discover adds (fun _ same => same.fault?) fun _ new => new.fault?
  have settings {Value : Type} (setting? : FileSettings → Option Value)
      (unset : setting? {} = none) :
      (({ place with files }).discover directory).findSome?
          (fun path => setting? (({ place with files }).given path)) =
        (place.discover directory).findSome? fun path => setting? (place.given path) :=
    findSome?_discover adds (fun _ same => by rw [same.given]) fun _ new => by rw [new.given, unset]
  rw [load_eq, load_eq, faults]
  cases (place.discover directory).findSome? place.fault? with
  | some error => rfl
  | none =>
    simp only [Except.map, Settings.merge_eq, Settings.unplaced, List.findSome?_map,
      Function.comp_def]
    rw [settings (·.indexName) rfl, settings (·.pageSize) rfl, settings (·.logLevel) rfl]

end

end Surroundings

end SearchQuery
