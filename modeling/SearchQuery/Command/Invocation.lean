import SearchQuery.Command.Arguments
import SearchQuery.Command.Basic
import SearchQuery.Text.Blank
import SearchQuery.Text.Natural

/-!
# Invocations

How the arguments of the program are read as an instruction. In front of the name of the command
only the option for the verbosity may stand; behind it, the options of the command and that one.
Arguments are checked one after the other, so that a request for help is one only if all is well in
front of it. What a command cannot do without is asked for last.
-/

set_option autoImplicit false

namespace SearchQuery.Command

def verbose : OptionSpec :=
  { long := "verbose", short := some 'v', takesValue := false, repeats := true }

def flagSpec (long : String) : OptionSpec :=
  { long, takesValue := false }

def valueSpec (long : String) (short : Option Char) (accepts : String → Bool) : OptionSpec :=
  { long, short, accepts }

/-- An option that may be given any number of times. -/
def listSpec (long : String) (short : Option Char) (accepts : String → Bool) : OptionSpec :=
  { long, short, accepts, repeats := true }

/-- The filter that an argument spells: a field name, which is trimmed and must not be blank, an
equals sign, and a pattern. -/
def namedFilter? (text : String) : Option FilterEntry :=
  let field := Text.trim (text.toList.takeWhile (· != '='))
  match field, text.toList.dropWhile (· != '=') with
  | [], _ => none
  | _, [] => none
  | _, _ :: pattern => some ⟨String.ofList field, String.ofList pattern⟩

def isText : String → Bool := fun _ => true

def isPath (text : String) : Bool := text != ""

def isNumber (text : String) : Bool := (Text.word? text).isSome

def isFilter (text : String) : Bool := (namedFilter? text).isSome

def searchSpecs : List OptionSpec := [
  valueSpec "provider" (some 'p') isText, valueSpec "viewer" (some 'u') isText,
  listSpec "group" (some 'g') isText, listSpec "circle" (some 'c') isText,
  valueSpec "request" (some 'r') isPath, valueSpec "page" none isNumber,
  valueSpec "size" (some 'n') isNumber, listSpec "field" none isText,
  listSpec "limit-field" none isText, listSpec "wildcard-field" none isText,
  listSpec "part" none isText, listSpec "metatag" none isText, listSpec "subtag" none isText,
  listSpec "wildcard-filter" none isFilter, listSpec "regex-filter" none isFilter,
  flagSpec "compact"]

def RequestOptions.ofArguments (arguments : List Argument) : RequestOptions where
  words := wordsOf arguments
  page := (value? "page" arguments).bind Text.word?
  size := (value? "size" arguments).bind Text.word?
  fields := valuesOf "field" arguments
  limitFields := valuesOf "limit-field" arguments
  wildcardFields := valuesOf "wildcard-field" arguments
  parts := valuesOf "part" arguments
  metaTags := valuesOf "metatag" arguments
  subTags := valuesOf "subtag" arguments
  wildcardFilters := (valuesOf "wildcard-filter" arguments).filterMap namedFilter?
  regexFilters := (valuesOf "regex-filter" arguments).filterMap namedFilter?

def SearchOptions.ofArguments? (arguments : List Argument) : Option SearchOptions := do
  let provider ← value? "provider" arguments
  let viewer ← value? "viewer" arguments
  some {
    provider
    access := {
      viewer
      groups := valuesOf "group" arguments
      circles := valuesOf "circle" arguments }
    requestFile := (value? "request" arguments).map (⟨·⟩)
    request := RequestOptions.ofArguments arguments
    compact := flag "compact" arguments }

def LookupOptions.ofArguments? (arguments : List Argument) : Option LookupOptions :=
  match wordsOf arguments with
  | [provider, document] => some { provider, document, compact := flag "compact" arguments }
  | _ => none

/-- The arguments of an analysis of a search text, which has to have a word. -/
def TokenOptions.ofArguments? (arguments : List Argument) : Option TokenOptions :=
  match wordsOf arguments with
  | [] => none
  | words => some { words, json := flag "json" arguments }

def InitOptions.ofArguments (arguments : List Argument) : InitOptions where
  user := flag "global" arguments
  force := flag "force" arguments

/-- How the arguments of a command are read. -/
structure CommandSpec where
  options : List OptionSpec
  /-- The greatest number of words that it takes, if there is one. -/
  mostWords : Option Nat
  /-- The command that is spelled by arguments that are given no more often than they may be, unless
  there is one missing. -/
  command? : List Argument → Option Command

namespace CommandSpec

def search : CommandSpec where
  options := searchSpecs
  mostWords := none
  command? arguments := (SearchOptions.ofArguments? arguments).map (.inquire ∘ .compile)

def lookup : CommandSpec where
  options := [flagSpec "compact"]
  mostWords := some 2
  command? arguments := (LookupOptions.ofArguments? arguments).map (.inquire ∘ .get)

def tokens : CommandSpec where
  options := [flagSpec "json"]
  mostWords := none
  command? arguments := (TokenOptions.ofArguments? arguments).map (.inquire ∘ .tokens)

def init : CommandSpec where
  options := [flagSpec "global", flagSpec "force"]
  mostWords := some 0
  command? arguments := some (.init (InitOptions.ofArguments arguments))

def config : CommandSpec where
  options := []
  mostWords := some 0
  command? _ := some (.inquire .config)

def named? : String → Option CommandSpec
  | "compile" => some search
  | "get" => some lookup
  | "tokens" => some tokens
  | "init" => some init
  | "config" => some config
  | _ => none

/-- Whether no option and no word is given too often. -/
def admits (spec : CommandSpec) (arguments : List Argument) : Bool :=
  keepsToOnce spec.options arguments && spec.mostWords.all ((wordsOf arguments).length ≤ ·)

/-- The instruction that the arguments of a command spell. The verbosity among them counts; if there
is none, that in front of the name of the command does. -/
def instruction? (spec : CommandSpec) (before : Nat) (arguments : List String) :
    Option Instruction := do
  let arguments ← readArguments? (verbose :: spec.options) arguments
  if !spec.admits arguments then none
  else if .help ∈ arguments then some .help
  else
    let command ← spec.command? arguments
    let behind := countOf verbose.long arguments
    some (.run { verbosity := if behind = 0 then before else behind, command })

end CommandSpec

/-- Whether what follows the command for help is the name of a command, or nothing. -/
def namesTopic : List String → Bool
  | [] => true
  | [name] => name == "help" || (CommandSpec.named? name).isSome
  | _ => false

end SearchQuery.Command

namespace SearchQuery

open Command

namespace Instruction

/-- Reads arguments from in front of the name of the command on, with the verbosity so far. -/
def ofArgumentsFrom? (before : Nat) : List String → Option Instruction
  | [] => none
  | argument :: rest =>
    if looksLikeOption argument then
      match readOption? [verbose] argument with
      | some (found, none) =>
        if .help ∈ found then some .help else ofArgumentsFrom? (before + found.length) rest
      | _ => none
    else if argument = "help" then if namesTopic rest then some .help else none
    else (CommandSpec.named? argument).bind (·.instruction? before rest)

/-- The instruction that the arguments of the program spell. -/
def ofArguments? (arguments : List String) : Option Instruction :=
  ofArgumentsFrom? 0 arguments

end Instruction

namespace Invocation

/-- The run that the arguments of the program ask for. -/
def ofArguments? (arguments : List String) : Option Invocation :=
  (Instruction.ofArguments? arguments).bind Instruction.invocation?

theorem ofArguments?_eq_some_iff {arguments : List String} {invocation : Invocation} :
    ofArguments? arguments = some invocation ↔
      Instruction.ofArguments? arguments = some (.run invocation) := by
  unfold ofArguments?
  cases Instruction.ofArguments? arguments with
  | none => simp
  | some instruction => cases instruction <;> simp [Instruction.invocation?]

end Invocation

end SearchQuery
