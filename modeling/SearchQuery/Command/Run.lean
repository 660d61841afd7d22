import SearchQuery.Command.Build
import SearchQuery.Command.Failure
import SearchQuery.Command.Invocation
import SearchQuery.Command.TokenTable
import SearchQuery.LogFilter
import SearchQuery.Request.Encoding
import SearchQuery.Settings.Template
import SearchQuery.Terminal.Highlight

/-!
# Running commands

A run is a function of what it finds around it. It gives a text to print, the events to log, perhaps
a failure, and the files as they are afterwards. Only the command that writes a new configuration
file changes them; it is also the only one that does without the settings.
-/

set_option autoImplicit false

namespace SearchQuery.Command

structure Answer where
  output : String := ""
  failure : Option Failure := none
  deriving DecidableEq, Repr

def Answer.failed (failure : Failure) : Answer :=
  { failure := some failure }

/-- A JSON value as it is printed: on one line if that is asked for, else over several lines and, on
a terminal, in colours. -/
def printed (terminal compact : Bool) (value : Json String) : String :=
  (if compact then value.compact
    else if terminal then Terminal.highlight Terminal.json value.pretty
    else value.pretty) ++ "\n"

def compiledAnswer {α : Type} (terminal compact : Bool) (toJson : α → Json String) :
    Except CompileError α → Answer
  | .ok compiled => { output := printed terminal compact (toJson compiled) }
  | .error error => .failed (.query error)

def readRequest (place : Surroundings) (path : Path) : Except Failure SearchRequest :=
  match place.files.read place.cwd path with
  | .error error => .error (.requestUnreadable path error)
  | .ok text =>
    match SearchRequest.ofText? text with
    | some request => .ok request
    | none => .error (.requestMalformed path)

def fileRequest (place : Surroundings) : Option Path → Except Failure (Option SearchRequest)
  | none => .ok none
  | some path => (readRequest place path).map some

def requestNote (request : SearchRequest) : Event where
  level := .debug
  target := "ftq::cli::commands::compile"
  message := "request"
  fields := [("search", .plain request.search), ("page", .number request.page.toNat),
    ("size", .number request.size.toNat)]

namespace SearchOptions

def answer (options : SearchOptions) (place : Surroundings) (terminal : Bool)
    (settings : Settings) : Reported Answer :=
  match fileRequest place options.requestFile with
  | .error failure => pure (.failed failure)
  | .ok file => do
    let request := RequestOptions.build file options.request settings.pageSize
    Reported.report (requestNote request)
    let compiled ← request.compile settings.index options.access options.provider
    pure (compiledAnswer terminal options.compact CompiledQuery.toJson compiled)

end SearchOptions

namespace LookupOptions

def answer (options : LookupOptions) (terminal : Bool) (settings : Settings) :
    Reported Answer := do
  let compiled ← IdLookup.compile settings.index options.provider options.document
  pure (compiledAnswer terminal options.compact IdLookup.toJson compiled)

end LookupOptions

namespace TokenOptions

def search (options : TokenOptions) : String :=
  " ".intercalate options.words

def answer (options : TokenOptions) : Answer :=
  let reports := TokenReport.analyze options.search
  { output := if options.json then tokenJson reports else tokenTable reports
    failure :=
      if reports.any TokenReport.hasTerm then none else some (.noTerms ⟨options.search⟩) }

end TokenOptions

def settingsText (settings : Settings) : String :=
  (match settings.root with
    | some root =>
      Terminal.subheader "Config root:" ++ " " ++ (root.join configFileName).text ++ "\n"
    | none => Terminal.dim "No configuration files found; showing defaults." ++ "\n") ++
    "\n" ++ Terminal.highlight Terminal.toml settings.toToml

namespace Inquiry

def answer (place : Surroundings) (terminal : Bool) (settings : Settings) :
    Inquiry → Reported Answer
  | .compile options => options.answer place terminal settings
  | .get options => options.answer terminal settings
  | .tokens options => pure options.answer
  | .config => pure { output := settingsText settings }

end Inquiry

namespace InitOptions

/-- Whether the new file is that of the user: if that is asked for, and in the home directory. -/
def isForUser (options : InitOptions) (place : Surroundings) : Bool :=
  options.user ||
    (place.userFile?.bind Path.parent?).any (·.sameAs place.cwd)

/-- Where the new file goes, unless it is that of the user and no home directory is known. -/
def target? (options : InitOptions) (place : Surroundings) : Option Path :=
  if options.isForUser place then place.userFile? else some (place.cwd.join configFileName)

def template (options : InitOptions) (place : Surroundings) : String :=
  if options.isForUser place then Template.user else Template.project

def report (target : Path) (template : String) : String :=
  "Created " ++ target.text ++ "\n\n" ++
    Terminal.subheader "Configuration written:" ++ "\n" ++
    Terminal.highlight Terminal.toml template

/-- Writes the template to a path. -/
def writeTo (options : InitOptions) (place : Surroundings) (target : Path) :
    Except Failure FileTree :=
  if place.files.contains place.cwd target && !options.force then
    .error (.alreadyExists target)
  else
    match place.files.write place.cwd target (options.template place) with
    | .ok files => .ok files
    | .error error => .error (.notWritten target error)

end InitOptions

end SearchQuery.Command

namespace SearchQuery

open Command

/-- What a run finds around it, and how its output is taken up. -/
structure Session extends Surroundings where
  logFilter : Option String := none
  terminal : Bool := false
  deriving Repr

structure Outcome where
  output : String := ""
  failure : Option Failure := none
  log : List Event := []
  files : FileTree
  deriving Repr

def Outcome.exitCode (outcome : Outcome) : UInt32 :=
  match outcome.failure with
  | none => 0
  | some _ => 1

namespace Invocation

def inquire (session : Session) (verbosity : Nat) (inquiry : Inquiry) : Outcome :=
  match session.load session.cwd with
  | .error error => { failure := some (.settings error), files := session.files }
  | .ok settings =>
    let answer := inquiry.answer session.toSurroundings session.terminal settings
    let filter := LogFilter.choose session.logFilter verbosity settings.logLevel
    { output := answer.value.output
      failure := answer.value.failure
      log := answer.events.filter filter.shows
      files := session.files }

def writeNew (session : Session) (options : InitOptions) : Outcome :=
  match options.target? session.toSurroundings with
  | none => { failure := some .homeUnknown, files := session.files }
  | some target =>
    match options.writeTo session.toSurroundings target with
    | .ok files =>
      { output := InitOptions.report target (options.template session.toSurroundings), files }
    | .error failure => { failure := some failure, files := session.files }

def run (session : Session) (invocation : Invocation) : Outcome :=
  match invocation.command with
  | .inquire inquiry => inquire session invocation.verbosity inquiry
  | .init options => writeNew session options

end Invocation

end SearchQuery
