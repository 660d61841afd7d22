import SearchQuery.Command.Reach

/-!
# The program

Looks at the files that a command depends on, runs it, and does what comes of it: it prints, logs to
the error output, and writes the files that have changed.
-/

set_option autoImplicit false

namespace SearchQuery.Program

def look (location : Location) : IO (Option Node) := do
  try
    let bytes ← IO.FS.readBinFile location.path
    match String.fromUTF8? bytes with
    | some text => pure (some (.file (.text text)))
    | none => pure (some (.file .binary))
  catch
    | .noFileOrDirectory .. => pure none
    | .inappropriateType .. => pure (some .directory)
    | error => throw error

/-- Looks at locations, each of them only if the one that it is in is a directory. -/
def survey (tree : FileTree) : List Location → IO FileTree
  | [] => pure tree
  | location :: rest => do
    match tree.node? location, tree.node? location.dropLast with
    | none, some .directory =>
      match ← look location with
      | some node => survey (tree.set location node) rest
      | none => survey tree rest
    | _, _ => survey tree rest

/-- What is shown as help. -/
def usage : String :=
  "Usage: ftq [OPTIONS] <compile|get|tokens|init|config|help> [ARGUMENTS]"

/-- Does what comes of a run. -/
def finish (before : FileTree) (outcome : Outcome) : IO Unit := do
  for (location, text) in outcome.files.changes before do
    IO.FS.writeFile location.path text
  for event in outcome.log do
    IO.eprintln event.line
  IO.print outcome.output
  match outcome.failure with
  | none => pure ()
  | some failure => IO.eprint (failure.text "the file is not valid")

end SearchQuery.Program

open SearchQuery SearchQuery.Program

def main (arguments : List String) : IO UInt32 := do
  let cwd : Path := ⟨(← IO.currentDir).toString⟩
  let home : Path := ⟨(← IO.getEnv "HOME").getD ""⟩
  let logFilter ← IO.getEnv "RUST_LOG"
  let terminal ← (← IO.getStdout).isTty
  let call : Call := { arguments, cwd, home, logFilter, terminal }
  let files ← survey ⟨[]⟩ call.locations
  match Instruction.ofArguments? arguments with
  | none => IO.eprintln "error: the arguments are not those of a command"
  | some .help => IO.println usage
  | some (.run invocation) => finish files (invocation.run (call.session files))
  pure (call.exitCode files)
