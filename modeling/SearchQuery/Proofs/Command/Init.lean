import SearchQuery.Command.Run
import SearchQuery.Proofs.Settings.Silent
import SearchQuery.Proofs.Settings.Template

/-!
# New configuration files

A run that is to make a new configuration file fails and changes nothing, or it writes one file
(`init_cases`). There is nothing but comments in that file, so that settings are loaded as before,
from every directory (`init_keeps_settings`).
-/

set_option autoImplicit false

namespace SearchQuery

theorem FileTree.contains_of_locate {tree : FileTree} {cwd path : Path} {location : Location}
    (leads : tree.locate cwd path = .ok location) :
    tree.contains cwd path = (tree.node? location).isSome := by
  unfold contains nodeAt
  rw [leads]
  simp only [bind, Except.bind]
  cases tree.node? location with
  | none => rfl
  | some node => rfl

namespace Command.InitOptions

theorem ofText?_template (options : InitOptions) (place : Surroundings) :
    FileSettings.ofText? (options.template place) = some {} := by
  unfold template
  split
  · exact Template.ofText?_user
  · exact Template.ofText?_project

/-- The new file is that of the user if that is asked for, and when the path of the working
directory is that of the home directory. -/
theorem isForUser_iff (options : InitOptions) (place : Surroundings) :
    options.isForUser place = true ↔
      options.user = true ∨ place.knowsHome = true ∧ place.home.sameAs place.cwd = true := by
  obtain ⟨parent, isParent, sameForm⟩ := place.home.parent?_join slash_not_mem_configFileName
    isBlankSegment_configFileName
  have sameHome : parent.sameAs place.cwd = true ↔ place.home.sameAs place.cwd = true := by
    rw [Path.sameAs_iff, Path.sameAs_iff, sameForm]
  rw [isForUser, Bool.or_eq_true, Surroundings.userFile?, ← sameHome]
  cases place.knowsHome with
  | false => simp
  | true => simp [Surroundings.userFile, isParent]

/-- What is written: the template, to where the target leads, and if that is not forced, there was
nothing before. -/
structure Writes (options : InitOptions) (place : Surroundings) (target : Path)
    (location : Location) (files : FileTree) : Prop where
  isTarget : options.target? place = some target
  leads : place.files.locate place.cwd target = .ok location
  noDirectory : place.files.node? location ≠ some .directory
  isSet : files = place.files.set location (.file (.text (options.template place)))
  unforced : options.force = false → place.files.node? location = none

theorem writes_of_writeTo {options : InitOptions} {place : Surroundings} {target : Path}
    {files : FileTree} (isTarget : options.target? place = some target)
    (succeeds : options.writeTo place target = .ok files) :
    ∃ location, options.Writes place target location files := by
  unfold writeTo at succeeds
  split at succeeds
  · cases succeeds
  · rename_i allowed
    cases written : place.files.write place.cwd target (options.template place) with
    | error error =>
      rw [written] at succeeds
      cases succeeds
    | ok tree =>
      rw [written] at succeeds
      cases succeeds
      obtain ⟨location, leads, noDirectory, isSet⟩ := FileTree.write_eq_ok written
      refine ⟨location, isTarget, leads, noDirectory, isSet, fun unforced => ?_⟩
      rw [FileTree.contains_of_locate leads, unforced] at allowed
      simpa using allowed

end Command.InitOptions

namespace Command

theorem init_cases (session : Session) (verbosity : Nat) (options : InitOptions) :
    let outcome := Invocation.run session ⟨verbosity, .init options⟩
    (∃ failure, outcome.failure = some failure ∧ outcome.files = session.files) ∨
      (outcome.failure = none ∧
        ∃ target location,
          options.Writes session.toSurroundings target location outcome.files) := by
  intro outcome
  have isNew : outcome = Invocation.writeNew session options := rfl
  rw [isNew]
  unfold Invocation.writeNew
  cases isTarget : options.target? session.toSurroundings with
  | none => exact .inl ⟨.homeUnknown, rfl, rfl⟩
  | some target =>
    dsimp only
    cases written : options.writeTo session.toSurroundings target with
    | error failure => exact .inl ⟨failure, rfl, rfl⟩
    | ok files => exact .inr ⟨rfl, target, InitOptions.writes_of_writeTo isTarget written⟩

/-- A new configuration file changes no settings. Where nothing is at the place of the new file, all
that is loaded after the run is what was loaded before it, from any directory and in any working
directory: the same settings, but for the directory they come from, or the same error. -/
theorem init_keeps_settings {session : Session} {verbosity : Nat} {options : InitOptions}
    (absent : ∀ target ∈ options.target? session.toSurroundings,
      session.files.contains session.cwd target = false)
    (succeeds : (Invocation.run session ⟨verbosity, .init options⟩).failure = none)
    (cwd directory : Path) :
    let after : Surroundings :=
      { session with files := (Invocation.run session ⟨verbosity, .init options⟩).files, cwd }
    let before : Surroundings := { session with cwd }
    (after.load directory).map Settings.unplaced =
      (before.load directory).map Settings.unplaced := by
  intro after before
  rcases init_cases session verbosity options with
    ⟨failure, fails, _⟩ | ⟨_, target, location, writes⟩
  · rw [fails] at succeeds
    cases succeeds
  · have absent := absent target writes.isTarget
    rw [FileTree.contains_of_locate writes.leads, Option.isSome_eq_false_iff,
      Option.isNone_iff_eq_none] at absent
    have named := FileTree.ne_nil_of_not_directory writes.noDirectory
    have adds : FileTree.AddsSilent location before.files after.files := by
      have isSet : after.files = _ := writes.isSet
      rw [isSet]
      exact {
        toDifferAt := FileTree.differAt_set writes.noDirectory
        absent
        silent := ⟨_, FileTree.node?_set_self _ named _, options.ofText?_template _⟩ }
    exact Surroundings.load_of_silent adds directory

/-- A working directory below one with a configuration file, and a user with another one. -/
def belowConfigured : Session where
  files := ⟨[(["work"], .directory), (["work", "app"], .directory), (["home"], .directory),
    (["work", ".ftq.toml"], .file (.text "[index]\nname = \"docs\"\n")),
    (["home", ".ftq.toml"], .file (.text "[log]\nlevel = \"info\"\n"))]⟩
  cwd := ⟨"/work/app"⟩
  home := ⟨"/home"⟩

/-- The new file stands in front of the two files that give settings. -/
theorem init_keeps_settings_below :
    let options : InitOptions := {}
    let before : Surroundings := belowConfigured.toSurroundings
    let after : Surroundings :=
      { before with files := (Invocation.run belowConfigured ⟨0, .init options⟩).files }
    (∀ target ∈ options.target? before, before.files.contains before.cwd target = false) ∧
    (Invocation.run belowConfigured ⟨0, .init options⟩).failure = none ∧
    (after.load ⟨"/work/app"⟩).map Settings.unplaced =
      (before.load ⟨"/work/app"⟩).map Settings.unplaced ∧
    (before.load ⟨"/work/app"⟩).toOption =
      some { indexName := some "docs", logLevel := "info", root := some ⟨"/work"⟩ } := by
  intro options before after
  have absent : ∀ target ∈ options.target? before,
      before.files.contains before.cwd target = false := by
    decide +kernel
  have succeeds : (Invocation.run belowConfigured ⟨0, .init options⟩).failure = none := by
    decide +kernel
  exact ⟨absent, succeeds,
    @init_keeps_settings belowConfigured 0 options absent succeeds ⟨"/work/app"⟩ ⟨"/work/app"⟩,
    by decide +kernel⟩

end Command

end SearchQuery
