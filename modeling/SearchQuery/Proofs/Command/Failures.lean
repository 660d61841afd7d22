import SearchQuery.Command.Call
import SearchQuery.Proofs.Command.Search
import SearchQuery.Proofs.Query.Outcome
import SearchQuery.Proofs.Settings.Loading

/-!
# What fails first

A run that is to print a query can fail at the settings, at the file with the request, at the index
and at the terms, in that order. It fails at the first of them that is wrong, whatever else is
(`answer_of_fails`), and it prints the query when none is (`answer_of_gives`).
-/

set_option autoImplicit false

namespace SearchQuery

open SearchQuery.Token (tokenize)
open SearchQuery.Term (BlankToken)

namespace Outcome

def answer (outcome : Outcome) : Command.Answer :=
  ⟨outcome.output, outcome.failure⟩

variable {outcome : Outcome} {given : Command.Answer}

theorem failure_eq (same : outcome.answer = given) : outcome.failure = given.failure :=
  congrArg Command.Answer.failure same

theorem output_eq (same : outcome.answer = given) : outcome.output = given.output :=
  congrArg Command.Answer.output same

end Outcome

/-- Text is looked for in which there is nothing to search for. -/
def SearchRequest.Termless (request : SearchRequest) : Prop :=
  request.search ≠ ":null" ∧ ∀ token ∈ tokenize request.search, BlankToken token.toList

namespace Command

/-- The commands that print a query. -/
inductive Inquiry.ForQuery : Inquiry → Prop where
  | search (options : SearchOptions) : ForQuery (.compile options)
  | lookup (options : LookupOptions) : ForQuery (.get options)

/-- No file with a request is named, or the one that is can be read as one. -/
inductive Requested (place : Surroundings) : Option Path → Option SearchRequest → Prop where
  | none : Requested place none none
  | file {path : Path} {text : String} {request : SearchRequest} :
      place.files.read place.cwd path = .ok text → SearchRequest.ofText? text = some request →
      Requested place (some path) (some request)

/-- What is reported, for each of the things that can be wrong, if those that come before it are
not. -/
inductive Fails (place : Surroundings) : Inquiry → Failure → Prop where
  | settings {inquiry : Inquiry} {before after : List Path} {file : Path} {error : SettingsError} :
      place.discover place.cwd = before ++ file :: after →
      place.readSettings file = .error error →
      (∀ earlier ∈ before, ∃ settings, place.readSettings earlier = .ok settings) →
      Fails place inquiry (.settings error)
  | unreadable {options : SearchOptions} {settings : Settings} {path : Path} {error : FileError} :
      place.load place.cwd = .ok settings → options.requestFile = some path →
      place.files.read place.cwd path = .error error →
      Fails place (.compile options) (.requestUnreadable path error)
  | malformed {options : SearchOptions} {settings : Settings} {path : Path} {text : String} :
      place.load place.cwd = .ok settings → options.requestFile = some path →
      place.files.read place.cwd path = .ok text → SearchRequest.ofText? text = none →
      Fails place (.compile options) (.requestMalformed path)
  | noIndex {options : SearchOptions} {settings : Settings} {file : Option SearchRequest} :
      place.load place.cwd = .ok settings → Requested place options.requestFile file →
      settings.index = .missing →
      Fails place (.compile options) (.query .noIndex)
  | noTerms {options : SearchOptions} {settings : Settings} {file : Option SearchRequest}
      {name : String} {request : SearchRequest} :
      place.load place.cwd = .ok settings → Requested place options.requestFile file →
      settings.index = .known name →
      request = RequestOptions.build file options.request settings.pageSize → request.Termless →
      Fails place (.compile options) (.query (.noTerms ⟨request.search⟩))
  | lookupNoIndex {options : LookupOptions} {settings : Settings} :
      place.load place.cwd = .ok settings → settings.index = .missing →
      Fails place (.get options) (.query .noIndex)

/-- The query that is printed if nothing is wrong, and whether that is done on one line. -/
inductive Gives (place : Surroundings) : Inquiry → Bool → Json String → Prop where
  | search {options : SearchOptions} {settings : Settings} {file : Option SearchRequest}
      {compiled : CompiledQuery} :
      place.load place.cwd = .ok settings → Requested place options.requestFile file →
      ((RequestOptions.build file options.request settings.pageSize).compile settings.index
        options.access options.provider).value = .ok compiled →
      Gives place (.compile options) options.compact compiled.toJson
  | lookup {options : LookupOptions} {settings : Settings} {lookup : IdLookup} :
      place.load place.cwd = .ok settings →
      (IdLookup.compile settings.index options.provider options.document).value = .ok lookup →
      Gives place (.get options) options.compact lookup.toJson

theorem Gives.wellSpelled {place : Surroundings} {inquiry : Inquiry} {compact : Bool}
    {document : Json String} (gives : Gives place inquiry compact document) :
    Json.isWellSpelled document = true := by
  cases gives with
  | search _ _ _ => exact CompiledQuery.isWellSpelled_toJson _
  | lookup _ _ => exact (IdLookup.withinLimits_toJson _).wellSpelled

/-!
## The file with the request
-/

theorem Requested.fileRequest_eq {place : Surroundings} {path? : Option Path}
    {file : Option SearchRequest} (requested : Requested place path? file) :
    fileRequest place path? = .ok file := by
  cases requested with
  | none => rfl
  | file read valid =>
    rw [fileRequest, readRequest, read]
    dsimp only
    rw [valid]
    rfl

theorem requested_or_fails {place : Surroundings} {settings : Settings}
    (loaded : place.load place.cwd = .ok settings) (options : SearchOptions) :
    (∃ file, Requested place options.requestFile file) ∨
      ∃ failure, Fails place (.compile options) failure := by
  cases named : options.requestFile with
  | none => exact .inl ⟨none, .none⟩
  | some path =>
    cases read : place.files.read place.cwd path with
    | error error => exact .inr ⟨_, .unreadable loaded named read⟩
    | ok text =>
      cases valid : SearchRequest.ofText? text with
      | none => exact .inr ⟨_, .malformed loaded named read valid⟩
      | some request => exact .inl ⟨some request, .file read valid⟩

/-!
## Answers
-/

theorem answer_of_load {session : Session} {settings : Settings}
    (loaded : session.load session.cwd = .ok settings) (verbosity : Nat) (inquiry : Inquiry) :
    (Invocation.inquire session verbosity inquiry).answer =
      (inquiry.answer session.toSurroundings session.terminal settings).value := by
  unfold Invocation.inquire
  rw [loaded]
  rfl

theorem answer_search {session : Session} {settings : Settings} {options : SearchOptions}
    {file : Option SearchRequest} (loaded : session.load session.cwd = .ok settings)
    (requested : Requested session.toSurroundings options.requestFile file) (verbosity : Nat) :
    (Invocation.inquire session verbosity (.compile options)).answer =
      compiledAnswer session.terminal options.compact CompiledQuery.toJson
        ((RequestOptions.build file options.request settings.pageSize).compile settings.index
          options.access options.provider).value :=
  (answer_of_load loaded verbosity _).trans (value_answer requested.fileRequest_eq _)

theorem answer_lookup {session : Session} {settings : Settings}
    (loaded : session.load session.cwd = .ok settings) (verbosity : Nat)
    (options : LookupOptions) :
    (Invocation.inquire session verbosity (.get options)).answer =
      compiledAnswer session.terminal options.compact IdLookup.toJson
        (IdLookup.compile settings.index options.provider options.document).value :=
  answer_of_load loaded verbosity _

theorem answer_of_fails {session : Session} {inquiry : Inquiry} {failure : Failure}
    (fails : Fails session.toSurroundings inquiry failure) (verbosity : Nat) :
    (Invocation.inquire session verbosity inquiry).answer = .failed failure := by
  cases fails with
  | settings found fault earlier =>
    have notLoaded := (session.load_eq_error_iff _ _).mpr ⟨_, _, _, found, fault, earlier⟩
    unfold Invocation.inquire
    rw [notLoaded]
    rfl
  | unreadable loaded named read =>
    rw [answer_of_load loaded, Inquiry.answer, SearchOptions.answer, named, fileRequest,
      readRequest, read]
    rfl
  | malformed loaded named read invalid =>
    rw [answer_of_load loaded, Inquiry.answer, SearchOptions.answer, named, fileRequest,
      readRequest, read]
    dsimp only
    rw [invalid]
    rfl
  | noIndex loaded requested missing =>
    rw [answer_search loaded requested, missing]
    rfl
  | noTerms loaded requested known isRequest termless =>
    subst isRequest
    have noTerms := (SearchRequest.value_textualClauses_eq_error_iff _ _).mpr
      ⟨termless.1, termless.2, rfl⟩
    rw [answer_search loaded requested,
      (SearchRequest.value_compile_eq_error_iff _ _ _ _ _).mpr (.inr ⟨⟨_, known⟩, noTerms⟩)]
    rfl
  | lookupNoIndex loaded missing =>
    rw [answer_lookup loaded, missing]
    rfl

theorem answer_of_gives {session : Session} {inquiry : Inquiry} {compact : Bool}
    {document : Json String} (gives : Gives session.toSurroundings inquiry compact document)
    (verbosity : Nat) :
    (Invocation.inquire session verbosity inquiry).answer =
      { output := printed session.terminal compact document } := by
  cases gives with
  | search loaded requested compiles =>
    rw [answer_search loaded requested, compiles]
    rfl
  | lookup loaded compiles =>
    rw [answer_lookup loaded, compiles]
    rfl

/-- If nothing is wrong, there is a query. -/
theorem fails_or_gives (place : Surroundings) {inquiry : Inquiry} (forQuery : inquiry.ForQuery) :
    (∃ failure, Fails place inquiry failure) ∨
      ∃ compact document, Gives place inquiry compact document := by
  cases loaded : place.load place.cwd with
  | error error =>
    obtain ⟨_, _, _, found, fault, earlier⟩ := (place.load_eq_error_iff _ _).mp loaded
    exact .inl ⟨_, .settings found fault earlier⟩
  | ok settings =>
    cases forQuery with
    | search options =>
      obtain ⟨file, requested⟩ | fails := requested_or_fails loaded options
      · cases compiles : ((RequestOptions.build file options.request settings.pageSize).compile
          settings.index options.access options.provider).value with
        | ok compiled => exact .inr ⟨_, _, .search loaded requested compiles⟩
        | error error =>
          obtain ⟨missing, _⟩ | ⟨⟨name, known⟩, noTerms⟩ :=
            (SearchRequest.value_compile_eq_error_iff _ _ _ _ _).mp compiles
          · exact .inl ⟨_, .noIndex loaded requested missing⟩
          · obtain ⟨text, blank, _⟩ :=
              (SearchRequest.value_textualClauses_eq_error_iff _ _).mp noTerms
            exact .inl ⟨_, .noTerms loaded requested known rfl ⟨text, blank⟩⟩
      · exact .inl fails
    | lookup options =>
      cases isIndex : settings.index with
      | missing => exact .inl ⟨_, .lookupNoIndex loaded isIndex⟩
      | known name =>
        have compiles : (IdLookup.compile settings.index options.provider
            options.document).value = .ok ⟨name, options.provider ++ ":" ++ options.document⟩ := by
          rw [isIndex]
          rfl
        exact .inr ⟨_, _, .lookup loaded compiles⟩

theorem failure_iff {session : Session} {inquiry : Inquiry} (forQuery : inquiry.ForQuery)
    (verbosity : Nat) (failure : Failure) :
    (Invocation.inquire session verbosity inquiry).failure = some failure ↔
      Fails session.toSurroundings inquiry failure := by
  constructor
  · intro isFailure
    obtain ⟨first, fails⟩ | ⟨compact, document, gives⟩ :=
      fails_or_gives session.toSurroundings forQuery
    · rw [Outcome.failure_eq (answer_of_fails fails verbosity)] at isFailure
      cases isFailure
      exact fails
    · rw [Outcome.failure_eq (answer_of_gives gives verbosity)] at isFailure
      cases isFailure
  · intro fails
    rw [Outcome.failure_eq (answer_of_fails fails verbosity)]
    rfl

/-- A run that is to print a query fails exactly with what is wrong first, and then it prints
nothing, and its exit code is one. If nothing is wrong, it prints one document, which is the query,
and a line feed. -/
theorem query_run_fails_first {call : Call} (files : FileTree) {verbosity : Nat}
    {inquiry : Inquiry}
    (asked : Invocation.ofArguments? call.arguments = some ⟨verbosity, .inquire inquiry⟩)
    (forQuery : inquiry.ForQuery) (plain : call.terminal = false) :
    let place := (call.session files).toSurroundings
    ∃ outcome, call.outcome? files = some outcome ∧
      (∀ failure, outcome.failure = some failure ↔ Fails place inquiry failure) ∧
      ((∃ failure, Fails place inquiry failure) →
        call.exitCode files = 1 ∧ outcome.output = "") ∧
      ((∀ failure, ¬ Fails place inquiry failure) →
        call.exitCode files = 0 ∧
        ∃ compact document, Gives place inquiry compact document ∧
          outcome.output = (if compact then document.compact else document.pretty) ++ "\n" ∧
          Json.value? outcome.output.toList = some document) := by
  intro place
  have isOutcome : call.outcome? files =
      some (Invocation.inquire (call.session files) verbosity inquiry) := by
    rw [Call.outcome?, asked]
    rfl
  rw [Call.exitCode_of_run asked]
  refine ⟨_, isOutcome, failure_iff forQuery verbosity, fun fails => ?_, fun never => ?_⟩
  · obtain ⟨failure, fails⟩ := fails
    have answer : (Invocation.inquire (call.session files) verbosity inquiry).answer =
        .failed failure := answer_of_fails fails verbosity
    rw [Invocation.run, Outcome.exitCode, Outcome.failure_eq answer, Outcome.output_eq answer]
    exact ⟨rfl, rfl⟩
  · obtain ⟨failure, fails⟩ | ⟨compact, document, gives⟩ := fails_or_gives place forQuery
    · exact absurd fails (never failure)
    · have answer : (Invocation.inquire (call.session files) verbosity inquiry).answer =
          { output := printed call.terminal compact document } := answer_of_gives gives verbosity
      rw [plain] at answer
      rw [Invocation.run, Outcome.exitCode, Outcome.failure_eq answer, Outcome.output_eq answer]
      refine ⟨rfl, compact, document, gives, ?_, value?_printed gives.wellSpelled compact⟩
      cases compact with
      | true => rfl
      | false => rfl

/-- A call without settings, that names a file that is not there and looks for text without terms. -/
def allWrong : Call where
  arguments := ["compile", "-p", "files", "-u", "ann", "-r", "request.json", "+"]
  cwd := ⟨"/work"⟩
  home := ⟨"/home"⟩

/-- The file with the request is what is wrong first. -/
theorem query_run_fails_first_all_wrong :
    ∃ outcome,
      allWrong.outcome? ⟨[(["work"], .directory)]⟩ = some outcome ∧
      outcome.failure = some (.requestUnreadable ⟨"request.json"⟩ .notFound) ∧
      allWrong.exitCode ⟨[(["work"], .directory)]⟩ = 1 ∧ outcome.output = "" := by
  let options : SearchOptions :=
    { provider := "files"
      access := { viewer := "ann" }
      requestFile := some ⟨"request.json"⟩
      request := { words := ["+"] } }
  have asked : Invocation.ofArguments? allWrong.arguments =
      some ⟨0, .inquire (.compile options)⟩ := by
    decide +kernel
  obtain ⟨outcome, isOutcome, failure_iff, failing, _⟩ :=
    query_run_fails_first ⟨[(["work"], .directory)]⟩ asked (.search options) rfl
  let place := (allWrong.session ⟨[(["work"], .directory)]⟩).toSurroundings
  have loaded : place.load place.cwd = .ok {} := by decide +kernel
  have fails : Fails place (.compile options) (.requestUnreadable ⟨"request.json"⟩ .notFound) :=
    .unreadable loaded rfl (by decide +kernel)
  exact ⟨outcome, isOutcome, (failure_iff _).mpr fails, failing ⟨_, fails⟩⟩

end Command

end SearchQuery
