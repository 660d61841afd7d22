import SearchQuery.Query.Compile
import SearchQuery.Settings.Discovery

/-!
# Failing runs

Why a run of a command fails, and what is said about it. What is wrong with a file that is no valid
configuration or no valid request is not part of the reason; its description is put into the text.
-/

set_option autoImplicit false

namespace SearchQuery.Command

inductive Failure where
  | settings (error : SettingsError)
  | requestUnreadable (path : Path) (error : FileError)
  | requestMalformed (path : Path)
  | query (error : CompileError)
  | noTerms (error : NoTerms)
  | homeUnknown
  | alreadyExists (path : Path)
  | notWritten (path : Path) (error : FileError)
  deriving DecidableEq, Repr

namespace Failure

def message (detail : String) : Failure → String
  | settings error => "failed to load configuration: " ++ error.message detail
  | requestUnreadable path error => "failed to read " ++ path.text ++ ": " ++ error.message
  | requestMalformed path => "invalid search request in " ++ path.text ++ ": " ++ detail
  | query error => error.message
  | noTerms error => error.message
  | homeUnknown => "could not determine home directory"
  | alreadyExists path => "configuration file already exists: " ++ path.text
  | notWritten path error => "failed to write " ++ path.text ++ ": " ++ error.message

def hint? : Failure → Option String
  | query .noIndex =>
    some "Run 'ftq init' to create a configuration file, then set [index] name."
  | query (.noTerms _) => some NoTerms.suggestion
  | alreadyExists _ => some "use --force to overwrite"
  | _ => none

def text (detail : String) (failure : Failure) : String :=
  "error: " ++ failure.message detail ++ "\n" ++
    match failure.hint? with
    | some hint => hint ++ "\n"
    | none => ""

end Failure

end SearchQuery.Command
