import SearchQuery.Proofs.Settings.Loading

/-!
# Which configuration file overrides which

Every setting is that of the first file that gives it (`merge_eq`), in the order in which the files
are found. The file of the user comes last if it is not among the files above a directory. If it is,
it stays where the climb has met it, before all that is above the home directory
(`user_file_overrides_above_home`).
-/

set_option autoImplicit false

namespace SearchQuery

namespace Settings

theorem merge_eq (files : List LoadedFile) :
    merge files =
      { indexName := files.findSome? (·.settings.indexName)
        pageSize := (files.findSome? (·.settings.pageSize)).getD 20
        logLevel := (files.findSome? (·.settings.logLevel)).getD "warn"
        root := files.head?.bind (·.path.parent?) } := by
  have overridden : files.foldr (fun file settings => override settings file.settings) {} =
      { indexName := files.findSome? (·.settings.indexName)
        pageSize := (files.findSome? (·.settings.pageSize)).getD 20
        logLevel := (files.findSome? (·.settings.logLevel)).getD "warn" } := by
    induction files with
    | nil => rfl
    | cons file rest ih =>
      rw [List.foldr_cons, ih, override, List.findSome?_cons, List.findSome?_cons,
        List.findSome?_cons]
      cases file.settings.indexName <;> cases file.settings.pageSize <;>
        cases file.settings.logLevel <;> rfl
  rw [merge, overridden]

end Settings

namespace Surroundings

/-- A file on the climb is that of a directory, and those of the directories above it come after. -/
theorem filesAbove_split {place : Surroundings} {directory file : Path} {before after : List Path}
    (files : place.filesAbove directory = before ++ file :: after) :
    ∃ lower ∈ directory.ancestors, file = lower.join configFileName ∧
      after = (lower.ancestors.tail.map (·.join configFileName)).filter place.isFile := by
  obtain ⟨front, back, whole, _, fromFile⟩ := List.filter_eq_append_iff.mp files
  obtain ⟨passed, rest, isBack, _, _, above⟩ := List.filter_eq_cons_iff.mp fromFile
  rw [candidates, isBack, ← List.append_assoc, List.map_eq_append_iff] at whole
  obtain ⟨nearer, further, split, _, isFurther⟩ := whole
  obtain ⟨lower, upper, isCons, isFile, isRest⟩ := List.map_eq_cons_iff.mp isFurther
  rw [isCons] at split
  refine ⟨lower, ?_, isFile.symm, ?_⟩
  · rw [split]
    exact List.mem_append_right _ List.mem_cons_self
  · rw [Path.ancestors_suffix split, List.tail_cons, isRest, above]

/-- Where a file of the user that is found stands: on the climb, up to where that ends, or last. -/
theorem discover_split {place : Surroundings} {directory file : Path} {before after : List Path}
    (found : place.discover directory = before ++ file :: after)
    (isUser : place.isUserFile file = true) :
    (∃ beyond, place.filesAbove directory = before ++ file :: (after ++ beyond) ∧
      (after = [] → beyond = [] ∨ place.MarksRoot file)) ∨
    (after = [] ∧ ∀ other ∈ place.filesAbove directory, other.sameAs place.userFile = false) := by
  rcases place.discover_cases directory with
    ⟨nearer, root, beyond, files, _, marked, isFound⟩ | ⟨_, isFound⟩
  · rw [found] at isFound
    refine .inl ⟨beyond, ?_, fun isLast => .inr ?_⟩
    · rw [files, List.append_cons nearer root beyond, ← isFound]
      simp
    · rw [isLast] at isFound
      have isRoot := (List.append_inj' isFound rfl).2
      rw [List.singleton_inj.mp isRoot]
      exact marked
  · rw [found] at isFound
    split at isFound
    · rename_i unlisted
      -- The file that has been appended is the only one of the user.
      rcases List.eq_nil_or_concat' after with isLast | ⟨others, last, isConcat⟩
      · exact .inr ⟨isLast, unlisted.2.2⟩
      · rw [isConcat, ← List.cons_append, ← List.append_assoc] at isFound
        have files := (List.append_inj' isFound rfl).1
        have member : file ∈ place.filesAbove directory := by
          rw [← files]
          exact List.mem_append_right _ List.mem_cons_self
        rw [isUserFile_iff, unlisted.2.2 file member] at isUser
        cases isUser.2
    · rw [List.append_nil] at isFound
      exact .inl ⟨[], by rw [List.append_nil, isFound], fun _ => .inl rfl⟩

/-- A setting that files give, some of them before a file and some after it: the files before
override it, and it overrides those after. -/
def overriding {Value : Type} (given : Path → FileSettings) (before : List Path) (file : Path)
    (after : List Path) (setting? : FileSettings → Option Value) : Option Value :=
  (before.findSome? (setting? ∘ given)).or
    ((setting? (given file)).or (after.findSome? (setting? ∘ given)))

theorem findSome?_eq_overriding {Value : Type} (given : Path → FileSettings) (before : List Path)
    (file : Path) (after : List Path) (setting? : FileSettings → Option Value) :
    (before ++ file :: after).findSome? (setting? ∘ given) =
      overriding given before file after setting? := by
  rw [overriding, List.findSome?_append, List.findSome?_cons, Function.comp_apply]
  cases setting? (given file) <;> rfl

theorem load_eq_ok {place : Surroundings} {directory : Path} {settings : Settings}
    (loaded : place.load directory = .ok settings) :
    (∀ path ∈ place.discover directory, place.readSettings path = .ok (place.given path)) ∧
    Settings.merge ((place.discover directory).map fun path => ⟨path, place.given path⟩) =
      settings := by
  rw [load_eq] at loaded
  cases faults : (place.discover directory).findSome? place.fault? with
  | some error =>
    rw [faults] at loaded
    cases loaded
  | none =>
    rw [faults] at loaded
    refine ⟨fun path member => ?_, Except.ok.inj loaded⟩
    rw [readSettings_eq (isFile_of_mem_discover member),
      List.findSome?_eq_none_iff.mp faults path member]

/-- What a file gives is overridden by the files found before it, and overrides those after it. -/
theorem load_split {place : Surroundings} {directory file : Path} {before after : List Path}
    (found : place.discover directory = before ++ file :: after) {settings : Settings}
    (loaded : place.load directory = .ok settings) :
    ∃ given : Path → FileSettings,
      (∀ path ∈ before ++ file :: after, place.readSettings path = .ok (given path)) ∧
      settings.indexName = overriding given before file after (·.indexName) ∧
      settings.pageSize = (overriding given before file after (·.pageSize)).getD 20 ∧
      settings.logLevel = (overriding given before file after (·.logLevel)).getD "warn" := by
  have ⟨areRead, merged⟩ := load_eq_ok loaded
  rw [found] at areRead merged
  rw [Settings.merge_eq] at merged
  refine ⟨place.given, areRead, ?_, ?_, ?_⟩
  all_goals
    rw [← merged, ← findSome?_eq_overriding]
    simp only [List.findSome?_map]
    rfl

theorem sameAs_home_iff (place : Surroundings) (directory : Path) :
    (directory.join configFileName).sameAs place.userFile = true ↔
      directory.sameAs place.home = true :=
  Path.sameAs_join_iff directory place.home slash_not_mem_configFileName
    isBlankSegment_configFileName

/-- What is found after the file of the user is above the home directory. -/
theorem above_home_of_after {place : Surroundings} {directory file other : Path}
    {before after : List Path} (found : place.discover directory = before ++ file :: after)
    (isUser : place.isUserFile file = true) (later : other ∈ after) :
    ∃ lower ∈ directory.ancestors, file = lower.join configFileName ∧
      lower.sameAs place.home = true ∧
      ∃ upper ∈ lower.ancestors.tail, other = upper.join configFileName := by
  rcases discover_split found isUser with ⟨beyond, files, _⟩ | ⟨isLast, _⟩
  · obtain ⟨lower, isLower, isFile, above⟩ := filesAbove_split files
    rw [isFile, isUserFile_iff, sameAs_home_iff] at isUser
    have member := List.mem_append_left beyond later
    rw [above] at member
    obtain ⟨upper, isUpper, isOther⟩ := List.mem_map.mp (List.mem_of_mem_filter member)
    exact ⟨lower, isLower, isFile, isUser.2, upper, isUpper, isOther.symm⟩
  · rw [isLast] at later
    cases later

/-- The climb goes on from the file of the user to those above it, if it meets that file. -/
theorem after_ne_nil_of_above {place : Surroundings} {directory file lower upper : Path}
    {before after : List Path} (found : place.discover directory = before ++ file :: after)
    (isUser : place.isUserFile file = true) (isLower : lower ∈ directory.ancestors)
    (isHome : lower.sameAs place.home = true)
    (isFile : place.isFile (lower.join configFileName) = true)
    (noRoot : ¬ place.MarksRoot (lower.join configFileName))
    (isUpper : upper ∈ lower.ancestors.tail)
    (isFileAbove : place.isFile (upper.join configFileName) = true) : after ≠ [] := by
  intro isLast
  rcases discover_split found isUser with ⟨beyond, files, ends⟩ | ⟨_, unlisted⟩
  · obtain ⟨met, isMet, isFileMet, above⟩ := filesAbove_split files
    rw [isFileMet, isUserFile_iff, sameAs_home_iff, Path.sameAs_iff] at isUser
    -- No other directory on the climb is the home directory.
    have same : met = lower := Path.eq_of_mem_ancestors isMet isLower
      ((met.sameAs_iff lower).mpr (isUser.2.trans ((lower.sameAs_iff _).mp isHome).symm))
    rw [same] at isFileMet above
    rcases ends isLast with nothing | marked
    · rw [isLast, nothing] at above
      have member : upper.join configFileName ∈
          (lower.ancestors.tail.map (·.join configFileName)).filter place.isFile :=
        List.mem_filter.mpr ⟨List.mem_map_of_mem isUpper, isFileAbove⟩
      rw [← above] at member
      cases member
    · rw [isFileMet] at marked
      exact noRoot marked
  · have member : lower.join configFileName ∈ place.filesAbove directory :=
      List.mem_filter.mpr ⟨List.mem_map_of_mem isLower, isFile⟩
    have apart := unlisted _ member
    rw [(place.sameAs_home_iff lower).mpr isHome] at apart
    cases apart

theorem user_file_not_last_iff {place : Surroundings} {directory file : Path}
    {before after : List Path} (found : place.discover directory = before ++ file :: after)
    (isUser : place.isUserFile file = true) :
    after ≠ [] ↔ ∃ lower ∈ directory.ancestors, lower.sameAs place.home = true ∧
      place.isFile (lower.join configFileName) = true ∧
      ¬ place.MarksRoot (lower.join configFileName) ∧
      ∃ upper ∈ lower.ancestors.tail, place.isFile (upper.join configFileName) = true := by
  constructor
  · intro notLast
    obtain ⟨other, later⟩ := List.exists_mem_of_ne_nil after notLast
    have ⟨lower, isLower, isFile, isHome, upper, isUpper, isOther⟩ :=
      above_home_of_after found isUser later
    have fileFound : file ∈ place.discover directory := by
      rw [found]
      exact List.mem_append_right _ List.mem_cons_self
    have otherFound : other ∈ place.discover directory := by
      rw [found]
      exact List.mem_append_right _ (List.mem_cons_of_mem _ later)
    have notEnd : file ∈ (place.discover directory).dropLast := by
      rw [found, List.dropLast_append_of_ne_nil (List.cons_ne_nil file after),
        List.dropLast_cons_of_ne_nil notLast]
      exact List.mem_append_right _ List.mem_cons_self
    rw [isOther] at otherFound
    rw [isFile] at fileFound notEnd
    exact ⟨lower, isLower, isHome, isFile_of_mem_discover fileFound,
      not_marksRoot_of_mem_dropLast notEnd, upper, isUpper, isFile_of_mem_discover otherFound⟩
  · rintro ⟨lower, isLower, isHome, isFile, noRoot, upper, isUpper, isFileAbove⟩
    exact after_ne_nil_of_above found isUser isLower isHome isFile noRoot isUpper isFileAbove

/-- Where the file of the user stands. Files are found after it if it has been met on the climb, is
no root, and there are files above the home directory: they are the ones that come after it. What it
gives overrides what they give, and is overridden by the files before it. -/
theorem user_file_overrides_above_home {place : Surroundings} {directory file : Path}
    {before after : List Path} (found : place.discover directory = before ++ file :: after)
    (isUser : place.isUserFile file = true) :
    (after ≠ [] ↔ ∃ lower ∈ directory.ancestors, lower.sameAs place.home = true ∧
      place.isFile (lower.join configFileName) = true ∧
      ¬ place.MarksRoot (lower.join configFileName) ∧
      ∃ upper ∈ lower.ancestors.tail, place.isFile (upper.join configFileName) = true) ∧
    (∀ other ∈ after, ∃ lower ∈ directory.ancestors, lower.sameAs place.home = true ∧
      ∃ upper ∈ lower.ancestors.tail, other = upper.join configFileName) ∧
    ∀ settings, place.load directory = .ok settings →
      ∃ given : Path → FileSettings,
        (∀ path ∈ before ++ file :: after, place.readSettings path = .ok (given path)) ∧
        settings.indexName = overriding given before file after (·.indexName) ∧
        settings.pageSize = (overriding given before file after (·.pageSize)).getD 20 ∧
        settings.logLevel = (overriding given before file after (·.logLevel)).getD "warn" := by
  refine ⟨user_file_not_last_iff found isUser, ?_, fun settings loaded => load_split found loaded⟩
  intro other later
  have ⟨lower, isLower, _, isHome, above⟩ := above_home_of_after found isUser later
  exact ⟨lower, isLower, isHome, above⟩

/-- A home directory with a file in it and with one above it. -/
def sharedAboveHome : Surroundings where
  files := ⟨[(["people"], .directory), (["people", "project"], .directory),
    ([".ftq.toml"], .file (.text "[index]\nname = \"shared\"\n")),
    (["people", ".ftq.toml"],
      .file (.text "[index]\nname = \"personal\"\n[log]\nlevel = \"info\"\n"))]⟩
  cwd := ⟨"/people/project"⟩
  home := ⟨"/people"⟩

theorem discover_sharedAboveHome : sharedAboveHome.discover ⟨"/people/project"⟩ =
    [] ++ ⟨"/people/.ftq.toml"⟩ :: [⟨"/.ftq.toml"⟩] := by
  decide +kernel

theorem user_file_overrides_above_home_shared :
    sharedAboveHome.discover ⟨"/people/project"⟩ = [] ++ ⟨"/people/.ftq.toml"⟩ :: [⟨"/.ftq.toml"⟩] ∧
    sharedAboveHome.isUserFile ⟨"/people/.ftq.toml"⟩ = true ∧
    ∃ lower ∈ (⟨"/people/project"⟩ : Path).ancestors, lower.sameAs ⟨"/people"⟩ = true ∧
      ∃ upper ∈ lower.ancestors.tail, (⟨"/.ftq.toml"⟩ : Path) = upper.join configFileName :=
  have isUser : sharedAboveHome.isUserFile ⟨"/people/.ftq.toml"⟩ = true := by decide
  ⟨discover_sharedAboveHome, isUser,
    (user_file_overrides_above_home discover_sharedAboveHome isUser).2.1 _
      (List.mem_singleton_self _)⟩

/-- The file of the user need not come last. The one above it gives the index a name, and so does
it: its own name is the one that counts. -/
theorem user_file_not_last :
    ¬ (∀ before file after,
      sharedAboveHome.discover ⟨"/people/project"⟩ = before ++ file :: after →
        sharedAboveHome.isUserFile file = true → after = []) ∧
    (sharedAboveHome.readSettings ⟨"/.ftq.toml"⟩).toOption =
      some { index := some { name := some "shared" } } ∧
    (sharedAboveHome.load ⟨"/people/project"⟩).toOption =
      some { indexName := some "personal", logLevel := "info", root := some ⟨"/people"⟩ } := by
  refine ⟨fun isLast => ?_, by decide +kernel, by decide +kernel⟩
  have empty := isLast _ _ _ discover_sharedAboveHome (by decide)
  exact absurd empty (List.cons_ne_nil _ _)

end Surroundings

end SearchQuery
