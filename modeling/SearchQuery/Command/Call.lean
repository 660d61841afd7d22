import SearchQuery.Command.Run

/-!
# Calls of the program

A call gives arguments to the program, in some place. If they ask for help or are not those of a
command, nothing is run. Calls one after the other find the files as the calls before have left
them.
-/

set_option autoImplicit false

namespace SearchQuery

structure Call where
  arguments : List String
  /-- The working directory, as an absolute path. -/
  cwd : Path
  /-- The home directory. An empty path says that none is known. -/
  home : Path
  logFilter : Option String := none
  terminal : Bool := false
  deriving Repr

namespace Call

def session (call : Call) (files : FileTree) : Session where
  files
  cwd := call.cwd
  home := call.home
  logFilter := call.logFilter
  terminal := call.terminal

def outcome? (call : Call) (files : FileTree) : Option Outcome :=
  (Invocation.ofArguments? call.arguments).map fun invocation =>
    invocation.run (call.session files)

/-- The exit code of a call with arguments that are neither those of a command nor a request for
help. -/
def usageCode : UInt32 := 2

/-- The exit code of a call that shows help. -/
def helpCode : UInt32 := 0

def exitCode (call : Call) (files : FileTree) : UInt32 :=
  match Instruction.ofArguments? call.arguments with
  | none => usageCode
  | some .help => helpCode
  | some (.run invocation) => (invocation.run (call.session files)).exitCode

theorem exitCode_of_run {call : Call} {invocation : Invocation}
    (asked : Invocation.ofArguments? call.arguments = some invocation) (files : FileTree) :
    call.exitCode files = (invocation.run (call.session files)).exitCode := by
  rw [exitCode, Invocation.ofArguments?_eq_some_iff.mp asked]

def filesAfter (call : Call) (files : FileTree) : FileTree :=
  match call.outcome? files with
  | none => files
  | some outcome => outcome.files

/-- The files after some calls, the first one first. -/
def filesAfterAll (calls : List Call) (files : FileTree) : FileTree :=
  calls.foldl (fun files call => call.filesAfter files) files

end Call

end SearchQuery
