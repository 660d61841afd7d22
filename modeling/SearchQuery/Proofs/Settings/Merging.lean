import SearchQuery.Proofs.Settings.Precedence

/-!
# What merged settings are

Settings are put together from the last file to the first, and every file overrides what those after
it have given. So each setting is that of the first file that gives it, whatever the files give of
the other settings (`merge_takes_first_given`). A name counts as given when it is blank. Only once
the files have been merged is a blank name taken for none, and then the names of the files further
on are gone (`index_usable_iff_not_hidden`).
-/

set_option autoImplicit false

namespace SearchQuery

/-- A setting: which files give it a value, the value that it has otherwise, and where it stands
among all settings. -/
structure Setting (Value : Type) where
  Gives : FileSettings → Value → Prop
  default : Value
  value : Settings → Value

/-- A section that is there without its key gives nothing. -/
def FileSettings.GivesName (file : FileSettings) (name : String) : Prop :=
  file.index = some { name := some name }

theorem FileSettings.indexName_eq_some_iff (file : FileSettings) (name : String) :
    file.indexName = some name ↔ file.GivesName name := by
  obtain ⟨_, _ | ⟨_ | given⟩, _, _⟩ := file <;> simp [GivesName, indexName]

namespace Setting

variable {Value : Type}

def indexName : Setting (Option String) where
  Gives file value := ∃ name, file.GivesName name ∧ value = some name
  default := none
  value := Settings.indexName

def pageSize : Setting UInt64 where
  Gives file size := file.search = some { pageSize := some size }
  default := 20
  value := Settings.pageSize

def logLevel : Setting String where
  Gives file level := file.log = some { level := some level }
  default := "warn"
  value := Settings.logLevel

def IsGivenBy (setting : Setting Value) (files : List LoadedFile) : Prop :=
  ∃ file ∈ files, ∃ value, setting.Gives file.settings value

/-- The value of a setting is the one that the first file gives that gives any, or the default. -/
inductive FirstGiven (setting : Setting Value) (files : List LoadedFile) : Value → Prop where
  | default : ¬ setting.IsGivenBy files → FirstGiven setting files setting.default
  | given {before after : List LoadedFile} {file : LoadedFile} {value : Value} :
      files = before ++ file :: after → ¬ setting.IsGivenBy before →
      setting.Gives file.settings value → FirstGiven setting files value

/-- A setting comes from the nearer files if any of them gives it, else from those further on. -/
structure Layers (setting : Setting Value) (nearer further : List LoadedFile) : Prop where
  fromNearer : setting.IsGivenBy nearer →
    setting.value (.merge (nearer ++ further)) = setting.value (.merge nearer)
  fromFurther : ¬ setting.IsGivenBy nearer →
    setting.value (.merge (nearer ++ further)) = setting.value (.merge further)

/-- A setting is found in a file by a function, and in merged settings as the first one found. -/
structure FoundBy (setting : Setting Value) (given? : FileSettings → Option Value) : Prop where
  gives_iff : ∀ file value, setting.Gives file value ↔ given? file = some value
  value_merge : ∀ files, setting.value (.merge files) =
    (files.findSome? (given? ·.settings)).getD setting.default

theorem indexName_foundBy : indexName.FoundBy fun file => file.indexName.map some where
  gives_iff file value := by
    rw [Option.map_eq_some_iff]
    refine exists_congr fun name => ?_
    rw [file.indexName_eq_some_iff, eq_comm (a := value)]
  value_merge files := by
    rw [Settings.merge_eq]
    have found : (files.findSome? fun file => file.settings.indexName.map some) =
        (files.findSome? (·.settings.indexName)).map some :=
      (List.map_findSome?).symm
    rw [found]
    cases files.findSome? (·.settings.indexName) <;> rfl

theorem pageSize_foundBy : pageSize.FoundBy FileSettings.pageSize where
  gives_iff file value := by
    obtain ⟨_, _, _ | ⟨_ | size⟩, _⟩ := file <;> simp [pageSize, FileSettings.pageSize]
  value_merge files := by
    rw [Settings.merge_eq]
    rfl

theorem logLevel_foundBy : logLevel.FoundBy FileSettings.logLevel where
  gives_iff file value := by
    obtain ⟨_, _, _, _ | ⟨_ | level⟩⟩ := file <;> simp [logLevel, FileSettings.logLevel]
  value_merge files := by
    rw [Settings.merge_eq]
    rfl

section

variable {setting : Setting Value} {given? : FileSettings → Option Value}

theorem FoundBy.isGivenBy_iff (found : setting.FoundBy given?) (files : List LoadedFile) :
    setting.IsGivenBy files ↔ (files.findSome? (given? ·.settings)).isSome = true := by
  rw [List.findSome?_isSome_iff]
  refine exists_congr fun file => and_congr_right fun _ => ?_
  rw [Option.isSome_iff_exists]
  exact exists_congr fun value => found.gives_iff file.settings value

theorem FoundBy.not_isGivenBy_iff (found : setting.FoundBy given?) (files : List LoadedFile) :
    ¬ setting.IsGivenBy files ↔ files.findSome? (given? ·.settings) = none := by
  rw [found.isGivenBy_iff, Bool.not_eq_true, Option.isSome_eq_false_iff, Option.isNone_iff_eq_none]

theorem FoundBy.firstGiven (found : setting.FoundBy given?) (files : List LoadedFile) :
    setting.FirstGiven files (setting.value (.merge files)) := by
  rw [found.value_merge]
  cases isFirst : files.findSome? (given? ·.settings) with
  | none => exact .default ((found.not_isGivenBy_iff files).mpr isFirst)
  | some value =>
    obtain ⟨before, file, after, split, gives, silent⟩ := List.findSome?_eq_some_iff.mp isFirst
    refine .given split ?_ ((found.gives_iff file.settings value).mpr gives)
    exact (found.not_isGivenBy_iff before).mpr (List.findSome?_eq_none_iff.mpr silent)

theorem FoundBy.layers (found : setting.FoundBy given?) (nearer further : List LoadedFile) :
    setting.Layers nearer further where
  fromNearer isGiven := by
    obtain ⟨value, isFirst⟩ := Option.isSome_iff_exists.mp ((found.isGivenBy_iff nearer).mp isGiven)
    rw [found.value_merge, found.value_merge, List.findSome?_append, isFirst]
    rfl
  fromFurther notGiven := by
    rw [found.value_merge, found.value_merge, List.findSome?_append,
      (found.not_isGivenBy_iff nearer).mp notGiven]
    rfl

/-- A file that does not give a setting may be left out. -/
theorem FoundBy.value_insert (found : setting.FoundBy given?) (before after : List LoadedFile)
    {file : LoadedFile} (silent : ∀ value, ¬ setting.Gives file.settings value) :
    setting.value (.merge (before ++ file :: after)) =
      setting.value (.merge (before ++ after)) := by
  have nothing : given? file.settings = none :=
    Option.eq_none_iff_forall_ne_some.mpr fun value =>
      mt (found.gives_iff file.settings value).mpr (silent value)
  rw [found.value_merge, found.value_merge, List.findSome?_append, List.findSome?_append,
    List.findSome?_cons, nothing]

end

end Setting

/-- A file that gives no setting. It may have sections, without their keys, and it may be marked as
a root. -/
structure FileSettings.Silent (file : FileSettings) : Prop where
  indexName : ∀ value, ¬ Setting.indexName.Gives file value
  pageSize : ∀ value, ¬ Setting.pageSize.Gives file value
  logLevel : ∀ value, ¬ Setting.logLevel.Gives file value

namespace Settings

theorem root_merge (files : List LoadedFile) :
    (merge files).root = files.head?.bind (·.path.parent?) :=
  rfl

theorem merge_insert {before : List LoadedFile} (notFirst : before ≠ []) {file : LoadedFile}
    (silent : file.settings.Silent) (after : List LoadedFile) :
    merge (before ++ file :: after) = merge (before ++ after) := by
  have indexName := Setting.indexName_foundBy.value_insert before after silent.indexName
  have pageSize := Setting.pageSize_foundBy.value_insert before after silent.pageSize
  have logLevel := Setting.logLevel_foundBy.value_insert before after silent.logLevel
  have root : (merge (before ++ file :: after)).root = (merge (before ++ after)).root := by
    rw [root_merge, root_merge, List.head?_append_of_ne_nil before notFirst,
      List.head?_append_of_ne_nil before notFirst]
  generalize merge (before ++ file :: after) = first at *
  generalize merge (before ++ after) = second at *
  obtain ⟨_, _, _, _⟩ := first
  obtain ⟨_, _, _, _⟩ := second
  cases indexName
  cases pageSize
  cases logLevel
  cases root
  rfl

/-- Merging takes the first value given. Each setting of merged files is that of the first file that
gives it, or else the default, and their directory is that of the first file. So a file that gives
nothing changes nothing, unless it comes first, and each setting comes from the files before any
place in the list if one of them gives it, and else from the files behind. -/
theorem merge_takes_first_given :
    (∀ files, Setting.indexName.FirstGiven files (merge files).indexName ∧
      Setting.pageSize.FirstGiven files (merge files).pageSize ∧
      Setting.logLevel.FirstGiven files (merge files).logLevel ∧
      (merge files).root = files.head?.bind (·.path.parent?)) ∧
    (∀ before file after, before ≠ [] → file.settings.Silent →
      merge (before ++ file :: after) = merge (before ++ after)) ∧
    ∀ nearer further, Setting.indexName.Layers nearer further ∧
      Setting.pageSize.Layers nearer further ∧ Setting.logLevel.Layers nearer further := by
  refine ⟨fun files => ?_, fun before file after notFirst silent => ?_, fun nearer further => ?_⟩
  · exact ⟨Setting.indexName_foundBy.firstGiven files, Setting.pageSize_foundBy.firstGiven files,
      Setting.logLevel_foundBy.firstGiven files, root_merge files⟩
  · exact merge_insert notFirst silent after
  · exact ⟨Setting.indexName_foundBy.layers nearer further,
      Setting.pageSize_foundBy.layers nearer further,
      Setting.logLevel_foundBy.layers nearer further⟩

/-- A file in the middle has all sections and none of their keys. -/
theorem merge_takes_first_given_empty_sections :
    let nearer : LoadedFile := ⟨⟨"/work/app/.ftq.toml"⟩, { search := some { pageSize := some 5 } }⟩
    let middle : LoadedFile :=
      ⟨⟨"/work/.ftq.toml"⟩, { index := some {}, search := some {}, log := some {} }⟩
    let further : LoadedFile := ⟨⟨"/.ftq.toml"⟩,
      { index := some { name := some "docs" }, search := some { pageSize := some 7 } }⟩
    [nearer] ≠ [] ∧ middle.settings.Silent ∧
    merge ([nearer] ++ middle :: [further]) = merge ([nearer] ++ [further]) ∧
    Setting.pageSize.IsGivenBy [nearer] ∧ ¬ Setting.indexName.IsGivenBy [nearer] ∧
    (merge ([nearer] ++ [further])).pageSize = (merge [nearer]).pageSize ∧
    (merge ([nearer] ++ [further])).indexName = (merge [further]).indexName ∧
    merge ([nearer] ++ [further]) =
      { indexName := some "docs", pageSize := 5, root := some ⟨"/work/app"⟩ } := by
  intro nearer middle further
  obtain ⟨_, inserts, layers⟩ := merge_takes_first_given
  obtain ⟨names, sizes, _⟩ := layers [nearer] [further]
  have silent : middle.settings.Silent := by
    refine ⟨fun value gives => ?_, fun value gives => ?_, fun value gives => ?_⟩
    · obtain ⟨_, isName, _⟩ := gives
      cases isName
    · cases gives
    · cases gives
  have sizeGiven : Setting.pageSize.IsGivenBy [nearer] :=
    ⟨nearer, List.mem_singleton_self _, 5, rfl⟩
  have nameMissing : ¬ Setting.indexName.IsGivenBy [nearer] := by
    rintro ⟨file, isFile, _, _, isName, _⟩
    cases List.mem_singleton.mp isFile
    cases isName
  have notFirst : [nearer] ≠ [] := List.cons_ne_nil _ _
  exact ⟨notFirst, silent, inserts [nearer] middle [further] notFirst silent, sizeGiven,
    nameMissing, sizes.fromNearer sizeGiven, names.fromFurther nameMissing, by decide⟩

/-!
## The index
-/

/-- A name that is blank. It is taken for none. -/
def IsBlankName (name : String) : Prop :=
  Text.trimmed name = ""

/-- The index that merged settings name: that of the first name given, which may be blank. -/
inductive Named (files : List LoadedFile) : IndexName → Prop where
  | unnamed : (∀ file ∈ files, ∀ name, ¬ file.settings.GivesName name) → Named files .missing
  | blank {before after : List LoadedFile} {file : LoadedFile} {name : String} :
      files = before ++ file :: after →
      (∀ earlier ∈ before, ∀ other, ¬ earlier.settings.GivesName other) →
      file.settings.GivesName name → IsBlankName name → Named files .missing
  | known {before after : List LoadedFile} {file : LoadedFile} {name : String} :
      files = before ++ file :: after →
      (∀ earlier ∈ before, ∀ other, ¬ earlier.settings.GivesName other) →
      file.settings.GivesName name → ¬ IsBlankName name →
      Named files (.known (Text.trimmed name))

/-- The index that files would name if blank names were passed over. -/
inductive FirstUsable (files : List LoadedFile) : IndexName → Prop where
  | missing : (∀ file ∈ files, ∀ name, file.settings.GivesName name → IsBlankName name) →
      FirstUsable files .missing
  | known {before after : List LoadedFile} {file : LoadedFile} {name : String} :
      files = before ++ file :: after →
      (∀ earlier ∈ before, ∀ other, earlier.settings.GivesName other → IsBlankName other) →
      file.settings.GivesName name → ¬ IsBlankName name →
      FirstUsable files (.known (Text.trimmed name))

/-- The first name given is blank, and one that is not is given further on. -/
def HidesName (files : List LoadedFile) : Prop :=
  ∃ before file after name, files = before ++ file :: after ∧
    (∀ earlier ∈ before, ∀ other, ¬ earlier.settings.GivesName other) ∧
    file.settings.GivesName name ∧ IsBlankName name ∧
    ∃ later ∈ after, ∃ other, later.settings.GivesName other ∧ ¬ IsBlankName other

theorem indexName_merge_eq_none_iff (files : List LoadedFile) :
    (merge files).indexName = none ↔
      ∀ file ∈ files, ∀ name, ¬ file.settings.GivesName name := by
  rw [merge_eq, List.findSome?_eq_none_iff]
  refine forall₂_congr fun file _ => ?_
  rw [Option.eq_none_iff_forall_ne_some]
  exact forall_congr' fun name => not_congr (file.settings.indexName_eq_some_iff name)

theorem indexName_merge_eq_some_iff (files : List LoadedFile) (name : String) :
    (merge files).indexName = some name ↔
      ∃ before file after, files = before ++ file :: after ∧
        (∀ earlier ∈ before, ∀ other, ¬ earlier.settings.GivesName other) ∧
        file.settings.GivesName name := by
  rw [merge_eq, List.findSome?_eq_some_iff]
  refine exists_congr fun before => exists_congr fun file => exists_congr fun after => ?_
  have silent : (∀ earlier ∈ before, earlier.settings.indexName = none) ↔
      ∀ earlier ∈ before, ∀ other, ¬ earlier.settings.GivesName other := by
    rw [← indexName_merge_eq_none_iff, merge_eq, List.findSome?_eq_none_iff]
  rw [silent, file.settings.indexName_eq_some_iff, and_comm (a := file.settings.GivesName name)]

theorem index_eq_iff_named (files : List LoadedFile) (index : IndexName) :
    (merge files).index = index ↔ Named files index := by
  constructor
  · rintro rfl
    unfold Settings.index
    cases isName : (merge files).indexName with
    | none => exact .unnamed ((indexName_merge_eq_none_iff files).mp isName)
    | some name =>
      obtain ⟨before, file, after, split, silent, gives⟩ :=
        (indexName_merge_eq_some_iff files name).mp isName
      dsimp only
      split_ifs with blank
      · exact .blank split silent gives blank
      · exact .known split silent gives blank
  · intro named
    unfold Settings.index
    cases named with
    | unnamed silent => rw [(indexName_merge_eq_none_iff files).mpr silent]
    | blank split silent gives blank =>
      rw [(indexName_merge_eq_some_iff files _).mpr ⟨_, _, _, split, silent, gives⟩]
      exact if_pos blank
    | known split silent gives visible =>
      rw [(indexName_merge_eq_some_iff files _).mpr ⟨_, _, _, split, silent, gives⟩]
      exact if_neg visible

theorem FirstUsable.not_hidesName {files : List LoadedFile} (usable : FirstUsable files .missing) :
    ¬ HidesName files := by
  rintro ⟨before, file, after, name, split, _, _, _, later, isLater, other, gives, visible⟩
  cases usable with
  | missing allBlank =>
    have isMember : later ∈ files := by
      rw [split]
      exact List.mem_append_right _ (List.mem_cons_of_mem _ isLater)
    exact visible (allBlank later isMember other gives)

/-- The index of merged settings is that of the first name given. It is the one that files name when
blank names are passed over, except when the first name given is blank and one further on is not:
then the index is missing although a name is given. -/
theorem index_usable_iff_not_hidden (files : List LoadedFile) :
    (∀ index, (merge files).index = index ↔ Named files index) ∧
    (FirstUsable files (merge files).index ↔ ¬ HidesName files) := by
  refine ⟨index_eq_iff_named files, fun usable hidden => ?_, fun notHidden => ?_⟩
  · obtain ⟨before, file, after, name, split, silent, gives, blank, _⟩ := id hidden
    have isMissing : (merge files).index = .missing :=
      (index_eq_iff_named files _).mpr (.blank split silent gives blank)
    exact (isMissing ▸ usable).not_hidesName hidden
  · have named := (index_eq_iff_named files _).mp rfl
    generalize (merge files).index = index at named
    cases named with
    | unnamed silent =>
      exact .missing fun file isFile name gives => absurd gives (silent file isFile name)
    | @blank before after file name split silent gives blank =>
      refine .missing fun other isOther otherName otherGives => ?_
      by_contra visible
      rw [split, List.mem_append, List.mem_cons] at isOther
      obtain isEarlier | rfl | isLater := isOther
      · exact silent other isEarlier otherName otherGives
      · cases gives.symm.trans otherGives
        exact visible blank
      · exact notHidden ⟨before, file, after, name, split, silent, gives, blank, other, isLater,
          otherName, otherGives, visible⟩
    | known split silent gives visible =>
      refine .known split (fun earlier isEarlier other otherGives => ?_) gives visible
      exact absurd otherGives (silent earlier isEarlier other)

/-- A blank name in the file that applies most closely: no index is configured, although the file
above it names one. -/
theorem blank_name_hides :
    let nearer : LoadedFile := ⟨⟨"/work/app/.ftq.toml"⟩, { index := some { name := some "  " } }⟩
    let further : LoadedFile := ⟨⟨"/work/.ftq.toml"⟩, { index := some { name := some "docs" } }⟩
    FileSettings.ofText? "[index]\nname = \"  \"\n" = some nearer.settings ∧
    FileSettings.ofText? "[index]\nname = \"docs\"\n" = some further.settings ∧
    (merge [nearer, further]).index = .missing ∧
    (merge [further]).index = .known "docs" ∧
    further.settings.GivesName "docs" ∧ ¬ IsBlankName "docs" ∧
    ¬ FirstUsable [nearer, further] (merge [nearer, further]).index := by
  intro nearer further
  have isMissing : (merge [nearer, further]).index = .missing := by decide +kernel
  have visible : ¬ IsBlankName "docs" := show Text.trimmed "docs" ≠ "" by decide +kernel
  refine ⟨by decide +kernel, by decide +kernel, isMissing, by decide +kernel, rfl, visible,
    fun usable => ?_⟩
  rw [isMissing] at usable
  cases usable with
  | missing allBlank =>
    exact visible (allBlank further (List.mem_cons_of_mem _ (List.mem_singleton_self _)) "docs" rfl)

end Settings

end SearchQuery
