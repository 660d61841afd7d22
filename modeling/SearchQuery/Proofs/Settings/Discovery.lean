import SearchQuery.Proofs.Files.Path
import SearchQuery.Settings.Discovery

/-!
# Which configuration files are found

The search for configuration files climbs from a directory to those above it. It passes over what is
no file and stops at the first file that is marked as a root (`takeToRoot_cases`); a file that
cannot be read, or says nothing of the kind, does not stop it. What it finds is given exactly by
`discover_finds`, with the file of the user at the end if there is a place for it.
-/

set_option autoImplicit false

namespace SearchQuery

theorem slash_not_mem_configFileName : '/' ∉ configFileName.toList := by
  decide

theorem isBlankSegment_configFileName : Path.isBlankSegment configFileName.toList = false := by
  decide

namespace Surroundings

/-- Where a configuration file may be: in a directory and in those above it. -/
def candidates (directory : Path) : List Path :=
  directory.ancestors.map (·.join configFileName)

/-- The configuration files in a directory and in those above it, marked as roots or not. -/
def filesAbove (place : Surroundings) (directory : Path) : List Path :=
  (candidates directory).filter place.isFile

/-- A file is read as a text, the text is valid, and it marks the file as a root. -/
def MarksRoot (place : Surroundings) (path : Path) : Prop :=
  ∃ text settings, place.files.read place.cwd path = .ok text ∧
    FileSettings.ofText? text = some settings ∧ settings.root = some true

theorem isRootFile_iff (place : Surroundings) (path : Path) :
    place.isRootFile path = true ↔ place.MarksRoot path := by
  unfold isRootFile readSettings MarksRoot
  cases place.files.read place.cwd path with
  | error error => simp
  | ok text =>
    cases valid : FileSettings.ofText? text with
    | none => simp [valid]
    | some settings => simp [valid, FileSettings.isRoot]

theorem isRootFile_eq_false_iff (place : Surroundings) (path : Path) :
    place.isRootFile path = false ↔ ¬ place.MarksRoot path := by
  rw [← isRootFile_iff, Bool.not_eq_true]

/-- The climb goes on up to the first root, if there is one, and takes every file on its way. -/
theorem takeToRoot_cases (place : Surroundings) (paths : List Path) :
    (∃ before root after, paths.filter place.isFile = before ++ root :: after ∧
      (∀ file ∈ before, ¬ place.MarksRoot file) ∧ place.MarksRoot root ∧
      place.takeToRoot paths = (before ++ [root], true)) ∨
    ((∀ file ∈ paths.filter place.isFile, ¬ place.MarksRoot file) ∧
      place.takeToRoot paths = (paths.filter place.isFile, false)) := by
  induction paths with
  | nil => exact .inr ⟨by simp, rfl⟩
  | cons path rest ih =>
    unfold takeToRoot
    cases isFile : place.isFile path with
    | false =>
      rw [List.filter_cons_of_neg (by rw [isFile]; decide)]
      simpa using ih
    | true =>
      rw [List.filter_cons_of_pos isFile, if_pos rfl]
      cases isRoot : place.isRootFile path with
      | true =>
        exact .inl ⟨[], path, _, rfl, by simp, (isRootFile_iff _ _).mp isRoot, rfl⟩
      | false =>
        have passes := (isRootFile_eq_false_iff place path).mp isRoot
        rcases ih with ⟨before, root, after, files, noRoots, marked, found⟩ | ⟨noRoots, found⟩
        · refine .inl ⟨path :: before, root, after, by rw [files]; rfl,
            List.forall_mem_cons.mpr ⟨passes, noRoots⟩, marked, ?_⟩
          rw [found]
          rfl
        · refine .inr ⟨List.forall_mem_cons.mpr ⟨passes, noRoots⟩, ?_⟩
          rw [found]
          rfl

theorem isFile_of_mem_filesAbove {place : Surroundings} {directory path : Path}
    (found : path ∈ place.filesAbove directory) : place.isFile path = true :=
  (List.mem_filter.mp found).2

/-- No two candidates are the same path, since no two of their directories are. -/
theorem pairwise_candidates (directory : Path) :
    (candidates directory).Pairwise fun first second => first.sameAs second = false := by
  have apart := directory.nodup_forms_ancestors
  rw [List.Nodup, List.pairwise_map] at apart
  rw [candidates, List.pairwise_map]
  refine apart.imp fun different => ?_
  rw [← Bool.not_eq_true, Path.sameAs_join_iff _ _ slash_not_mem_configFileName
    isBlankSegment_configFileName, Path.sameAs_iff]
  exact different

theorem pairwise_filesAbove (place : Surroundings) (directory : Path) :
    (place.filesAbove directory).Pairwise fun first second => first.sameAs second = false :=
  (pairwise_candidates directory).sublist List.filter_sublist

theorem takeToRoot_subset (place : Surroundings) (paths : List Path) :
    (place.takeToRoot paths).1 ⊆ paths := by
  have kept : paths.filter place.isFile ⊆ paths := List.filter_sublist.subset
  rcases place.takeToRoot_cases paths with ⟨before, root, after, files, _, _, found⟩ | ⟨_, found⟩
  · rw [found]
    rw [files, List.append_cons before root after] at kept
    exact fun file member => kept (List.mem_append_left after member)
  · rw [found]
    exact kept

theorem mem_userFile? {place : Surroundings} {path : Path} :
    path ∈ place.userFile? ↔ place.knowsHome = true ∧ path = place.userFile := by
  unfold userFile?
  cases place.knowsHome with
  | false => simp
  | true => simp [eq_comm]

theorem isUserFile_iff {place : Surroundings} {path : Path} :
    place.isUserFile path = true ↔
      place.knowsHome = true ∧ path.sameAs place.userFile = true := by
  unfold isUserFile userFile?
  cases place.knowsHome <;> simp

/-- The file of the user as what it adds to the files on the climb. -/
theorem toList_filter_userFile? (place : Surroundings) (applies : Path → Bool) :
    (place.userFile?.filter applies).toList =
      if place.knowsHome = true ∧ applies place.userFile = true then [place.userFile] else [] := by
  unfold userFile?
  cases place.knowsHome with
  | false => simp
  | true => cases applied : applies place.userFile <;> simp [Option.filter, applied]

theorem discover_eq (place : Surroundings) (directory : Path) :
    place.discover directory =
      let climb := place.takeToRoot (candidates directory)
      if climb.2 then climb.1
      else climb.1 ++ (place.userFile?.filter fun user =>
        place.isFile user && !climb.1.any (·.sameAs user)).toList :=
  rfl

theorem discover_subset (place : Surroundings) (directory : Path) :
    place.discover directory ⊆ candidates directory ++ place.userFile?.toList := by
  have climbed := place.takeToRoot_subset (candidates directory)
  rw [discover_eq]
  dsimp only
  split
  · exact List.subset_append_of_subset_left _ climbed
  · refine List.append_subset.mpr ⟨List.subset_append_of_subset_left _ climbed, ?_⟩
    refine List.subset_append_of_subset_right _ fun path member => ?_
    rw [Option.mem_toList] at member ⊢
    exact (Option.mem_filter_iff.mp member).1

/-- What is found: the files up to the first root, or all of them and that of the user. -/
theorem discover_cases (place : Surroundings) (directory : Path) :
    (∃ before root after, place.filesAbove directory = before ++ root :: after ∧
      (∀ file ∈ before, ¬ place.MarksRoot file) ∧ place.MarksRoot root ∧
      place.discover directory = before ++ [root]) ∨
    ((∀ file ∈ place.filesAbove directory, ¬ place.MarksRoot file) ∧
      place.discover directory = place.filesAbove directory ++
        if place.knowsHome = true ∧ place.isFile place.userFile = true ∧
          ∀ file ∈ place.filesAbove directory, file.sameAs place.userFile = false
        then [place.userFile] else []) := by
  rw [discover_eq]
  rcases place.takeToRoot_cases (candidates directory) with
    ⟨before, root, after, files, noRoots, marked, found⟩ | ⟨noRoots, found⟩
  · refine .inl ⟨before, root, after, files, noRoots, marked, ?_⟩
    rw [found]
    rfl
  · refine .inr ⟨noRoots, ?_⟩
    have unlisted_iff : (place.isFile place.userFile &&
        !(place.filesAbove directory).any (·.sameAs place.userFile)) = true ↔
        place.isFile place.userFile = true ∧
          ∀ file ∈ place.filesAbove directory, file.sameAs place.userFile = false := by
      rw [Bool.and_eq_true, Bool.not_eq_true', List.any_eq_false]
      simp only [Bool.not_eq_true]
    rw [found]
    dsimp only
    rw [if_neg Bool.false_ne_true, toList_filter_userFile?]
    exact congrArg (place.filesAbove directory ++ ·)
      (if_congr (and_congr_right' unlisted_iff) rfl rfl)

theorem sublist_filesAbove_of_root {place : Surroundings} {directory root : Path}
    {before after : List Path}
    (files : place.filesAbove directory = before ++ root :: after) :
    (before ++ [root]).Sublist (place.filesAbove directory) := by
  rw [files, List.append_cons before root after]
  exact List.sublist_append_left _ _

theorem pairwise_discover (place : Surroundings) (directory : Path) :
    (place.discover directory).Pairwise fun first second => first.sameAs second = false := by
  have apart := place.pairwise_filesAbove directory
  rcases place.discover_cases directory with ⟨before, root, after, files, _, _, found⟩ | ⟨_, found⟩
  · rw [found]
    exact apart.sublist (sublist_filesAbove_of_root files)
  · rw [found]
    split
    · rename_i unlisted
      refine List.pairwise_append.mpr ⟨apart, List.pairwise_singleton _ _, ?_⟩
      intro file member other isUser
      rw [List.mem_singleton.mp isUser]
      exact unlisted.2.2 file member
    · rwa [List.append_nil]

theorem isFile_of_mem_discover {place : Surroundings} {directory file : Path}
    (member : file ∈ place.discover directory) : place.isFile file = true := by
  rcases place.discover_cases directory with ⟨before, root, after, files, _, _, found⟩ | ⟨_, found⟩
  · rw [found] at member
    exact isFile_of_mem_filesAbove ((sublist_filesAbove_of_root files).subset member)
  · rw [found, List.mem_append] at member
    rcases member with isAbove | isUser
    · exact isFile_of_mem_filesAbove isAbove
    · split at isUser
      · rename_i unlisted
        rw [List.mem_singleton.mp isUser]
        exact unlisted.2.1
      · cases isUser

theorem not_marksRoot_of_mem_dropLast {place : Surroundings} {directory file : Path}
    (member : file ∈ (place.discover directory).dropLast) : ¬ place.MarksRoot file := by
  rcases place.discover_cases directory with
    ⟨before, root, _, _, noRoots, _, found⟩ | ⟨noRoots, found⟩
  · rw [found, List.dropLast_concat] at member
    exact noRoots file member
  · rw [found] at member
    split at member
    · rw [List.dropLast_concat] at member
      exact noRoots file member
    · rw [List.append_nil] at member
      exact noRoots file (List.dropLast_subset _ member)

/-- Which configuration files are found. The directories in question have the initial parts of the
names of the given one, the longest first. Their files are found up to the first that marks itself
as a root; without a root all of them are, and then the file of the user, if the home directory is
known and it is a file and not among them. So nothing is found twice, only files are found, and only
the last of them may be a root. -/
theorem discover_finds (place : Surroundings) (directory : Path) :
    let files := (directory.ancestors.map (·.join configFileName)).filter place.isFile
    let found := place.discover directory
    directory.ancestors.map Path.form =
      directory.names.inits.reverse.map (directory.lead, ·) ++
        (if directory.lead = ['.'] then [([], [])] else []) ∧
    ((∃ before root after, files = before ++ root :: after ∧
        (∀ file ∈ before, ¬ place.MarksRoot file) ∧ place.MarksRoot root ∧
        found = before ++ [root]) ∨
      ((∀ file ∈ files, ¬ place.MarksRoot file) ∧
        found = files ++
          if place.knowsHome = true ∧ place.isFile place.userFile = true ∧
            ∀ file ∈ files, file.sameAs place.userFile = false
          then [place.userFile] else [])) ∧
    found.Pairwise (fun first second => first.sameAs second = false) ∧
    (∀ file ∈ found, place.isFile file = true) ∧
    (∀ file ∈ found.dropLast, ¬ place.MarksRoot file) :=
  ⟨directory.map_form_ancestors, place.discover_cases directory,
    place.pairwise_discover directory, fun _ member => isFile_of_mem_discover member,
    fun _ member => not_marksRoot_of_mem_dropLast member⟩

end Surroundings

end SearchQuery
