import SearchQuery.Command.Run
import SearchQuery.Proofs.Query.Rendering

/-!
# Runs that search

What a run of a search can come to is known exactly (`searchAnswer_run`): it fails at the settings,
at the file with the request or at the query, in that order, or it prints the query that its request
compiles to. From this follows what becomes of the words that are looked for
(`query_words_widen_iff`). They are the text that is looked for, unless there is one word and it is
the sentinel. Then no text is looked for at all, and the query that is printed only has its filters.
-/

set_option autoImplicit false

namespace SearchQuery

open SearchQuery.Command

namespace Command

/-- What a run of a search answers. -/
inductive SearchAnswer (session : Session) (options : SearchOptions) : Answer → Prop where
  | settings {error : SettingsError} : session.load session.cwd = .error error →
      SearchAnswer session options (.failed (.settings error))
  | requestFile {settings : Settings} {failure : Failure} :
      session.load session.cwd = .ok settings →
      fileRequest session.toSurroundings options.requestFile = .error failure →
      SearchAnswer session options (.failed failure)
  | query {settings : Settings} {file : Option SearchRequest} {error : CompileError} :
      session.load session.cwd = .ok settings →
      fileRequest session.toSurroundings options.requestFile = .ok file →
      ((RequestOptions.build file options.request settings.pageSize).compile settings.index
        options.access options.provider).value = .error error →
      SearchAnswer session options (.failed (.query error))
  | printed {settings : Settings} {file : Option SearchRequest} {compiled : CompiledQuery} :
      session.load session.cwd = .ok settings →
      fileRequest session.toSurroundings options.requestFile = .ok file →
      ((RequestOptions.build file options.request settings.pageSize).compile settings.index
        options.access options.provider).value = .ok compiled →
      SearchAnswer session options
        { output := Command.printed session.terminal options.compact compiled.toJson }

theorem value_answer {options : SearchOptions} {place : Surroundings} {settings : Settings}
    {file : Option SearchRequest} (read : fileRequest place options.requestFile = .ok file)
    (terminal : Bool) :
    (options.answer place terminal settings).value =
      compiledAnswer terminal options.compact CompiledQuery.toJson
        ((RequestOptions.build file options.request settings.pageSize).compile settings.index
          options.access options.provider).value := by
  rw [SearchOptions.answer, read]
  rfl

theorem searchAnswer_of_load {session : Session} {settings : Settings} {options : SearchOptions}
    (loaded : session.load session.cwd = .ok settings) :
    SearchAnswer session options
      (options.answer session.toSurroundings session.terminal settings).value := by
  cases read : fileRequest session.toSurroundings options.requestFile with
  | error failure =>
    rw [SearchOptions.answer, read]
    exact .requestFile loaded read
  | ok file =>
    rw [value_answer read]
    cases compiles : ((RequestOptions.build file options.request settings.pageSize).compile
      settings.index options.access options.provider).value with
    | error error => exact .query loaded read compiles
    | ok compiled => exact .printed loaded read compiles

theorem run_inquire (session : Session) (verbosity : Nat) (inquiry : Inquiry) :
    Invocation.run session ⟨verbosity, .inquire inquiry⟩ =
      Invocation.inquire session verbosity inquiry :=
  rfl

theorem searchAnswer_run (session : Session) (verbosity : Nat) (options : SearchOptions) :
    SearchAnswer session options
      ⟨(Invocation.run session ⟨verbosity, .inquire (.compile options)⟩).output,
        (Invocation.run session ⟨verbosity, .inquire (.compile options)⟩).failure⟩ := by
  rw [run_inquire]
  unfold Invocation.inquire
  cases loaded : session.load session.cwd with
  | error error => exact .settings loaded
  | ok settings => exact searchAnswer_of_load loaded

theorem search_prints {session : Session} {verbosity : Nat} {options : SearchOptions}
    (succeeds : (Invocation.run session ⟨verbosity, .inquire (.compile options)⟩).failure = none) :
    ∃ file pageSize index compiled,
      ((RequestOptions.build file options.request pageSize).compile index options.access
        options.provider).value = .ok compiled ∧
      (Invocation.run session ⟨verbosity, .inquire (.compile options)⟩).output =
        Command.printed session.terminal options.compact compiled.toJson := by
  have answer := searchAnswer_run session verbosity options
  generalize Invocation.run session ⟨verbosity, .inquire (.compile options)⟩ = outcome
    at answer succeeds
  obtain ⟨output, failure, log, files⟩ := outcome
  cases answer with
  | settings _ => cases succeeds
  | requestFile _ _ => cases succeeds
  | query _ _ _ => cases succeeds
  | printed _ _ compiles => exact ⟨_, _, _, _, compiles, rfl⟩

theorem output_of_failure {session : Session} {verbosity : Nat} {options : SearchOptions}
    {failure : Failure}
    (fails : (Invocation.run session ⟨verbosity, .inquire (.compile options)⟩).failure =
      some failure) :
    (Invocation.run session ⟨verbosity, .inquire (.compile options)⟩).output = "" := by
  have answer := searchAnswer_run session verbosity options
  generalize Invocation.run session ⟨verbosity, .inquire (.compile options)⟩ = outcome
    at answer fails
  obtain ⟨output, _, log, files⟩ := outcome
  cases answer with
  | settings _ => rfl
  | requestFile _ _ => rfl
  | query _ _ _ => rfl
  | printed _ _ _ => cases fails

theorem RequestOptions.search_build {options : RequestOptions} (hasWords : options.words ≠ [])
    (file : Option SearchRequest) (pageSize : UInt64) :
    (build file options pageSize).search = " ".intercalate options.words :=
  if_neg hasWords

/-- With words, the text that is looked for is the sentinel only if the one word is. -/
theorem RequestOptions.search_build_iff {options : RequestOptions} (hasWords : options.words ≠ [])
    (file : Option SearchRequest) (pageSize : UInt64) :
    (build file options pageSize).search = ":null" ↔ options.words = [":null"] := by
  rw [search_build hasWords]
  cases isWords : options.words with
  | nil => exact absurd isWords hasWords
  | cons word rest =>
    cases rest with
    | nil => simp
    | cons next more =>
      refine iff_of_false (fun same => ?_) (by simp)
      -- Two words have a blank between them, and there is none in the sentinel.
      have blank : ' ' ∈ (" ".intercalate (word :: next :: more)).toList := by
        simp [String.intercalate_cons_cons]
      rw [same] at blank
      exact absurd blank (by decide)

end Command

/-- The groups of the node that a compiled query is. -/
theorem SearchRequest.at?_body_bool {index : IndexName} {request : SearchRequest} {access : Access}
    {provider : String} {compiled : CompiledQuery}
    (compiles : (request.compile index access provider).value = .ok compiled) :
    ∃ textual filters, TextualPart request textual ∧
      Json.at? ["body", "query", "bool"] compiled.toJson =
        some (.object (textualJson textual ++ [("filter", .array filters)])) := by
  obtain ⟨name, textual, _, part, isCompiled⟩ :=
    (value_compile_eq_ok_iff index request access provider compiled).mp compiles
  have inQuery : Json.at? ["body", "query", "bool"] compiled.toJson =
      Json.at? ["bool"] compiled.query.toJson :=
    rfl
  have isQuery : compiled.query =
      (bodyQuery textual (request.filters access provider).value).toClause := by
    rw [isCompiled]
  refine ⟨textual, (request.filters access provider).value.map Clause.toJson, part, ?_⟩
  rw [inQuery, isQuery, toJson_bodyQuery part]
  rfl

namespace Command

/-- What becomes of the words of a search. The run fails and prints nothing, or it prints a query,
whatever the settings and the file with the request are. That query has one clause that is required,
for the words, except when there is one word and it is the sentinel: then it has none. -/
theorem query_words_widen_iff (session : Session) (verbosity : Nat) (options : SearchOptions)
    (hasWords : options.request.words ≠ []) :
    let outcome := Invocation.run session ⟨verbosity, .inquire (.compile options)⟩
    ((∃ failure, outcome.failure = some failure) ∧ outcome.output = "") ∨
    ∃ document groups, outcome.failure = none ∧
      outcome.output = printed session.terminal options.compact document ∧
      Json.value? (printed false options.compact document).toList = some document ∧
      Json.at? ["body", "query", "bool"] document = some (.object groups) ∧
      (Json.member? "must" groups = none ↔ options.request.words = [":null"]) ∧
      ∀ required, Json.member? "must" groups = some required →
        ∃ clause, required = .array [clause] := by
  intro outcome
  cases isFailure : outcome.failure with
  | some failure => exact .inl ⟨⟨failure, rfl⟩, output_of_failure isFailure⟩
  | none =>
    obtain ⟨file, pageSize, index, compiled, compiles, isOutput⟩ := search_prints isFailure
    obtain ⟨textual, filters, part, atBool⟩ := SearchRequest.at?_body_bool compiles
    have sentinel_iff := RequestOptions.search_build_iff hasWords file pageSize
    refine .inr ⟨compiled.toJson, _, rfl, isOutput,
      value?_printed compiled.isWellSpelled_toJson _, atBool, ?_⟩
    cases part with
    | none isSentinel =>
      exact ⟨iff_of_true rfl (sentinel_iff.mp isSentinel), fun _ isRequired => by cases isRequired⟩
    | terms text _ =>
      refine ⟨iff_of_false (fun isNone => by cases isNone) (mt sentinel_iff.mpr text), ?_⟩
      intro required isRequired
      cases isRequired
      exact ⟨_, rfl⟩

/-- A working directory with settings that name an index. -/
def indexedPlace : Session where
  files := ⟨[(["work"], .directory),
    (["work", ".ftq.toml"], .file (.text "[index]\nname = \"docs\"\n"))]⟩
  cwd := ⟨"/work"⟩
  home := ⟨"/home"⟩

/-- The sentinel is one of two words. -/
theorem query_words_widen_iff_two_words :
    let options : SearchOptions :=
      { provider := "files", access := { viewer := "ann" }, request := { words := [":null", "a"] } }
    let outcome := Invocation.run indexedPlace ⟨0, .inquire (.compile options)⟩
    options.request.words ≠ [] ∧ outcome.failure = none ∧
    (((∃ failure, outcome.failure = some failure) ∧ outcome.output = "") ∨
    ∃ document groups, outcome.failure = none ∧
      outcome.output = printed indexedPlace.terminal options.compact document ∧
      Json.value? (printed false options.compact document).toList = some document ∧
      Json.at? ["body", "query", "bool"] document = some (.object groups) ∧
      (Json.member? "must" groups = none ↔ options.request.words = [":null"]) ∧
      ∀ required, Json.member? "must" groups = some required →
        ∃ clause, required = .array [clause]) := by
  intro options
  exact ⟨by decide, by decide +kernel,
    query_words_widen_iff indexedPlace 0 options (by decide)⟩

/-- The word that is the sentinel, given on a command line, is looked for nowhere: the query that is
printed has its filters and nothing that is required. -/
theorem sentinel_word_widens :
    ∃ options : SearchOptions,
      Invocation.ofArguments? ["compile", "-p", "files", "-u", "ann", "--compact", ":null"] =
        some ⟨0, .inquire (.compile options)⟩ ∧
      options.request.words = [":null"] ∧
      (Invocation.run indexedPlace ⟨0, .inquire (.compile options)⟩).failure = none ∧
      ∃ document groups,
        Json.value? (Invocation.run indexedPlace ⟨0, .inquire (.compile options)⟩).output.toList =
          some document ∧
        Json.at? ["body", "query", "bool"] document = some (.object groups) ∧
        groups.map (·.1) = ["filter"] := by
  let options : SearchOptions :=
    { provider := "files"
      access := { viewer := "ann" }
      request := { words := [":null"] }
      compact := true }
  have succeeds :
      (Invocation.run indexedPlace ⟨0, .inquire (.compile options)⟩).failure = none := by
    decide +kernel
  obtain ⟨file, pageSize, index, compiled, compiles, isOutput⟩ := search_prints succeeds
  obtain ⟨textual, filters, part, atBool⟩ := SearchRequest.at?_body_bool compiles
  refine ⟨options, by decide +kernel, rfl, succeeds, compiled.toJson, _, ?_, atBool, ?_⟩
  · rw [isOutput]
    exact value?_printed compiled.isWellSpelled_toJson true
  · cases part with
    | none _ => rfl
    | terms text _ => exact absurd rfl text

end Command

end SearchQuery
