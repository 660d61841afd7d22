import SearchQuery.Command.Call
import SearchQuery.Proofs.Command.Init

/-!
# What calls do to files

A call leaves the files as they are or writes one new configuration file (`effect_filesAfter`); a
call that asks for help does not fail, but it runs nothing either. What there is at a location is
replaced only by a call that is forced to do so (`Effect.keeps`), and so it stays through all calls
that are not (`calls_write_new_files`).
-/

set_option autoImplicit false

namespace SearchQuery.Call

open SearchQuery.Command

/-- A new configuration file is made: the arguments ask for it, and the exit code is that of
success. -/
def Initialises (call : Call) (files : FileTree) (options : InitOptions) : Prop :=
  (∃ verbosity, Invocation.ofArguments? call.arguments = some ⟨verbosity, .init options⟩) ∧
    call.exitCode files = 0

/-- The path of a new configuration file and what is written to it. The file of the user has no path
if no home directory is known. -/
inductive Destined (call : Call) (options : InitOptions) : Path → String → Prop where
  | user : call.home.text ≠ "" → options.user = true ∨ call.home.sameAs call.cwd = true →
      Destined call options (call.home.join configFileName) Template.user
  | project : options.user = false →
      call.home.text = "" ∨ call.home.sameAs call.cwd = false →
      Destined call options (call.cwd.join configFileName) Template.project

/-- One file is written, and all else is as it was. There was something at its location only if the
call is forced to replace it. -/
structure Written (call : Call) (options : InitOptions) (before after : FileTree) (path : Path)
    (text : String) (location : Location) : Prop where
  destined : call.Destined options path text
  leads : before.locate call.cwd path = .ok location
  written : after.node? location = some (.file (.text text))
  others : ∀ other, other ≠ location → after.node? other = before.node? other
  unforced : options.force = false → before.node? location = none

/-- What a call can do to the files. -/
inductive Effect (call : Call) (before : FileTree) : FileTree → Prop where
  | nothing : (∀ options, ¬ call.Initialises before options) → Effect call before before
  | written {options : InitOptions} {after : FileTree} {path : Path} {text : String}
      {location : Location} :
      call.Initialises before options → call.Written options before after path text location →
      Effect call before after

/-- A call writes to a location, whatever there is. -/
structure Overwrites (call : Call) (files : FileTree) (location : Location)
    (options : InitOptions) : Prop where
  initialises : call.Initialises files options
  forced : options.force = true
  leads : ∃ path text, call.Destined options path text ∧
    files.locate call.cwd path = .ok location

/-!
## One call
-/

theorem knowsHome_session (call : Call) (files : FileTree) :
    (call.session files).knowsHome = true ↔ call.home.text ≠ "" :=
  bne_iff_ne

theorem destined_target {call : Call} {files : FileTree} {options : InitOptions} {target : Path}
    (isTarget : options.target? (call.session files).toSurroundings = some target) :
    call.Destined options target (options.template (call.session files).toSurroundings) := by
  have forUser := options.isForUser_iff (call.session files).toSurroundings
  rw [knowsHome_session] at forUser
  unfold InitOptions.target? at isTarget
  unfold InitOptions.template
  cases isForUser : options.isForUser (call.session files).toSurroundings with
  | true =>
    rw [isForUser, if_pos rfl] at isTarget
    obtain ⟨known, isUserFile⟩ := Surroundings.mem_userFile?.mp isTarget
    subst isUserFile
    exact .user ((call.knowsHome_session files).mp known)
      ((forUser.mp isForUser).imp_right And.right)
  | false =>
    rw [isForUser, if_neg Bool.false_ne_true] at isTarget
    cases isTarget
    rw [isForUser, Bool.false_eq_true, false_iff, not_or, not_and_or] at forUser
    exact .project (Bool.eq_false_iff.mpr forUser.1)
      (forUser.2.imp not_not.mp Bool.eq_false_iff.mpr)

theorem written_of_writes {call : Call} {options : InitOptions} {before after : FileTree}
    {target : Path} {location : Location}
    (writes : options.Writes (call.session before).toSurroundings target location after) :
    ∃ path text, call.Written options before after path text location := by
  have named := FileTree.ne_nil_of_not_directory writes.noDirectory
  have isSet := writes.isSet
  subst isSet
  exact ⟨_, _, {
    destined := destined_target writes.isTarget
    leads := writes.leads
    written := FileTree.node?_set_self _ named _
    others := fun _ different => FileTree.node?_set_other _ different _
    unforced := writes.unforced }⟩

theorem files_inquire (session : Session) (verbosity : Nat) (inquiry : Inquiry) :
    (Invocation.inquire session verbosity inquiry).files = session.files := by
  unfold Invocation.inquire
  split
  · rfl
  · rfl

theorem filesAfter_of_read {call : Call} {invocation : Invocation}
    (read : Invocation.ofArguments? call.arguments = some invocation) (files : FileTree) :
    call.filesAfter files = (invocation.run (call.session files)).files := by
  rw [filesAfter, outcome?, read]
  rfl

theorem filesAfter_of_no_run {call : Call}
    (unread : Invocation.ofArguments? call.arguments = none) (files : FileTree) :
    call.filesAfter files = files := by
  rw [filesAfter, outcome?, unread]
  rfl

/-- A request for help is answered. It is neither a failure nor a run. -/
theorem help_changes_nothing {call : Call}
    (asked : Instruction.ofArguments? call.arguments = some .help) (files : FileTree) :
    call.exitCode files = 0 ∧ call.filesAfter files = files := by
  refine ⟨by rw [exitCode, asked]; rfl, filesAfter_of_no_run ?_ files⟩
  rw [Invocation.ofArguments?, asked]
  rfl

theorem misuse_changes_nothing {call : Call}
    (unread : Instruction.ofArguments? call.arguments = none) (files : FileTree) :
    call.exitCode files = 2 ∧ call.filesAfter files = files := by
  refine ⟨by rw [exitCode, unread]; rfl, filesAfter_of_no_run ?_ files⟩
  rw [Invocation.ofArguments?, unread]
  rfl

theorem effect_of_no_run {call : Call}
    (unread : Invocation.ofArguments? call.arguments = none) (files : FileTree) :
    call.Effect files (call.filesAfter files) := by
  rw [filesAfter_of_no_run unread files]
  refine .nothing fun options initialises => ?_
  obtain ⟨⟨verbosity, asked⟩, _⟩ := initialises
  rw [unread] at asked
  cases asked

theorem effect_of_inquiry {call : Call} {verbosity : Nat} {inquiry : Inquiry}
    (read : Invocation.ofArguments? call.arguments = some ⟨verbosity, .inquire inquiry⟩)
    (files : FileTree) : call.Effect files (call.filesAfter files) := by
  have unchanged : call.filesAfter files = files :=
    (filesAfter_of_read read files).trans (files_inquire (call.session files) verbosity inquiry)
  rw [unchanged]
  refine .nothing fun options initialises => ?_
  obtain ⟨⟨verbosity, asked⟩, _⟩ := initialises
  rw [read] at asked
  cases asked

theorem effect_of_init {call : Call} {verbosity : Nat} {options : InitOptions}
    (read : Invocation.ofArguments? call.arguments = some ⟨verbosity, .init options⟩)
    (files : FileTree) : call.Effect files (call.filesAfter files) := by
  have code := exitCode_of_run read files
  rw [filesAfter_of_read read files]
  obtain ⟨failure, fails, unchanged⟩ | ⟨succeeds, target, location, writes⟩ :=
    init_cases (call.session files) verbosity options
  · rw [Outcome.exitCode, fails] at code
    rw [unchanged]
    refine .nothing fun other initialises => ?_
    obtain ⟨_, isZero⟩ := initialises
    rw [code] at isZero
    cases isZero
  · rw [Outcome.exitCode, succeeds] at code
    obtain ⟨path, text, written⟩ := written_of_writes writes
    exact .written ⟨⟨verbosity, read⟩, code⟩ written

theorem effect_filesAfter (call : Call) (files : FileTree) :
    call.Effect files (call.filesAfter files) := by
  cases read : Invocation.ofArguments? call.arguments with
  | none => exact effect_of_no_run read files
  | some invocation =>
    obtain ⟨verbosity, inquiry | options⟩ := invocation
    · exact effect_of_inquiry read files
    · exact effect_of_init read files

theorem Effect.unchanged_of_fails {call : Call} {before after : FileTree}
    (effect : call.Effect before after) (fails : call.exitCode before ≠ 0) : after = before := by
  cases effect with
  | nothing _ => rfl
  | written initialises _ => exact absurd initialises.2 fails

theorem Effect.keeps {call : Call} {before after : FileTree} (effect : call.Effect before after)
    {location : Location} {node : Node} (there : before.node? location = some node)
    (spared : ∀ options, ¬ call.Overwrites before location options) :
    after.node? location = some node := by
  cases effect with
  | nothing _ => exact there
  | @written options _ path text target initialises written =>
    by_cases same : location = target
    · subst same
      cases forced : options.force with
      | true =>
        exact absurd ⟨initialises, forced, path, text, written.destined, written.leads⟩
          (spared options)
      | false =>
        rw [written.unforced forced] at there
        cases there
    · rw [written.others location same]
      exact there

/-!
## Calls one after the other
-/

theorem filesAfterAll_append (first second : List Call) (files : FileTree) :
    filesAfterAll (first ++ second) files = filesAfterAll second (filesAfterAll first files) :=
  List.foldl_append

theorem node?_filesAfterAll {calls : List Call} {files : FileTree} {location : Location}
    {node : Node} (there : files.node? location = some node)
    (spared : ∀ earlier call later, calls = earlier ++ call :: later →
      ∀ options, ¬ call.Overwrites (filesAfterAll earlier files) location options) :
    (filesAfterAll calls files).node? location = some node := by
  -- The other calls find the files as the first one leaves them.
  induction calls generalizing files with
  | nil => exact there
  | cons call rest ih =>
    have kept : (call.filesAfter files).node? location = some node :=
      (call.effect_filesAfter files).keeps there (spared [] call rest rfl)
    refine ih kept fun earlier other later isRest => ?_
    exact spared (call :: earlier) other later (congrArg (call :: ·) isRest)

/-- Calls only ever write new configuration files. Every call leaves all files as they are, as it
does when it fails, or it is one that makes a new configuration file: then it writes the template to
where that belongs, and it replaces what is there only if it is forced to. A call that asks for help
leaves the files as they are and does not fail; one with arguments that are no instruction leaves
them too, and fails. So what there is at a location stays there through all calls that are not
forced to write to it. -/
theorem calls_write_new_files (calls : List Call) (files : FileTree) :
    (∀ earlier call later, calls = earlier ++ call :: later →
      let before := filesAfterAll earlier files
      let after := filesAfterAll (earlier ++ [call]) files
      call.Effect before after ∧ (call.exitCode before ≠ 0 → after = before) ∧
        (Instruction.ofArguments? call.arguments = some .help →
          call.exitCode before = 0 ∧ after = before) ∧
        (Instruction.ofArguments? call.arguments = none →
          call.exitCode before = 2 ∧ after = before)) ∧
    ∀ location node, files.node? location = some node →
      (∀ earlier call later, calls = earlier ++ call :: later →
        ∀ options, ¬ call.Overwrites (filesAfterAll earlier files) location options) →
      (filesAfterAll calls files).node? location = some node := by
  constructor
  · intro earlier call later _ before after
    have step : after = call.filesAfter before := filesAfterAll_append earlier [call] files
    rw [step]
    have effect := call.effect_filesAfter before
    exact ⟨effect, effect.unchanged_of_fails, fun asked => help_changes_nothing asked before,
      fun unread => misuse_changes_nothing unread before⟩
  · intro location node there spared
    exact node?_filesAfterAll there spared

/-- Calls in and above a working directory with settings: a new file, one that is there already, the
user's, which is replaced, arguments that are not those of a command, a request for help, and the
file of a user whose home directory is not known. -/
def callsBelowConfigured : List Call := [
  { arguments := ["init"], cwd := ⟨"/work/app"⟩, home := ⟨"/home"⟩ },
  { arguments := ["init"], cwd := ⟨"/work"⟩, home := ⟨"/home"⟩ },
  { arguments := ["init", "--global", "--force"], cwd := ⟨"/work/app"⟩, home := ⟨"/home"⟩ },
  { arguments := ["tokens"], cwd := ⟨"/work/app"⟩, home := ⟨"/home"⟩ },
  { arguments := ["init", "--force", "--help"], cwd := ⟨"/work"⟩, home := ⟨"/home"⟩ },
  { arguments := ["init", "--global"], cwd := ⟨"/work"⟩, home := ⟨""⟩ }]

/-- The call that fails changes nothing, nor does the one that asks for help, and what the one that
is forced replaces is not the file above its working directory. -/
theorem calls_write_new_files_below :
    let files := belowConfigured.files
    let failing : Call := { arguments := ["init"], cwd := ⟨"/work"⟩, home := ⟨"/home"⟩ }
    let forced : Call :=
      { arguments := ["init", "--global", "--force"], cwd := ⟨"/work/app"⟩, home := ⟨"/home"⟩ }
    let helped : Call :=
      { arguments := ["init", "--force", "--help"], cwd := ⟨"/work"⟩, home := ⟨"/home"⟩ }
    let first := filesAfterAll (callsBelowConfigured.take 1) files
    let second := filesAfterAll (callsBelowConfigured.take 2) files
    let third := filesAfterAll (callsBelowConfigured.take 3) files
    let fourth := filesAfterAll (callsBelowConfigured.take 4) files
    let fifth := filesAfterAll (callsBelowConfigured.take 5) files
    let settings := Node.file (.text "[index]\nname = \"docs\"\n")
    failing.exitCode first ≠ 0 ∧ second = first ∧
    forced.exitCode second = 0 ∧ forced.Effect second third ∧
    helped.exitCode fourth = 0 ∧ fifth = fourth ∧
    files.node? ["work", ".ftq.toml"] = some settings ∧
    (filesAfterAll callsBelowConfigured files).node? ["work", ".ftq.toml"] = some settings := by
  intro files failing forced helped first second third fourth fifth settings
  have fails : failing.exitCode first ≠ 0 := by decide +kernel
  have there : files.node? ["work", ".ftq.toml"] = some settings := by decide +kernel
  obtain ⟨steps, keeps⟩ := calls_write_new_files callsBelowConfigured files
  have asked : Instruction.ofArguments? helped.arguments = some .help := by decide
  obtain ⟨success, unchanged⟩ :=
    (steps (callsBelowConfigured.take 4) helped _ rfl).2.2.1 asked
  refine ⟨fails, (steps (callsBelowConfigured.take 1) failing _ rfl).2.1 fails, by decide +kernel,
    (steps (callsBelowConfigured.take 2) forced _ rfl).1, success, unchanged, there,
    keeps _ _ there ?_⟩
  intro earlier other later split options overwrites
  obtain ⟨⟨⟨verbosity, asked⟩, _⟩, forced, path, text, destined, leads⟩ := overwrites
  have member : other ∈ callsBelowConfigured := by
    rw [split]
    exact List.mem_append_right earlier List.mem_cons_self
  simp only [callsBelowConfigured, List.mem_cons, List.not_mem_nil, or_false] at member
  obtain rfl | rfl | rfl | rfl | rfl | rfl := member
  · cases asked
    cases forced
  · cases asked
    cases forced
  · -- The call that is forced leads to the home directory.
    cases asked
    have away := FileTree.locate_eq_ok leads
    cases destined with
    | user _ _ => exact absurd away (by decide +kernel)
    | project notUser _ => cases notUser
  · cases asked
  · cases asked
  · cases asked
    cases forced

end SearchQuery.Call
