import SearchQuery.Proofs.Command.Failures
import SearchQuery.Proofs.Json.FieldOrigin

/-!
# The size of a page

The size of the query that is printed comes from the options, else from the file with the request,
else, if there is no such file, from the settings. A file that gives no size is read as a request
with the default size, and in a request a default cannot be told from a size that was written; so
with a file, the size of the settings never applies (`printed_size_layers`). Whether a file gives a
size is said of its text here, and not of the request it is read as.
-/

set_option autoImplicit false

namespace SearchQuery

open SearchQuery.Json (FieldGiven IsSource TextSpelling sourceText?)

namespace SearchRequest

variable {Text : Type} (text? : Text → Option String)

/-- The names of the fields of a request, in the order of declaration. -/
def fieldNames : List String :=
  ["search", "page", "size", "fields", "limit_fields", "wildcard_fields", "parts", "meta_tags",
    "sub_tags", "wildcard_filters", "regex_filters"]

theorem names_jsonFields : (jsonFields text?).map Json.Field.name = fieldNames :=
  rfl

theorem enters_size :
    ∀ field ∈ jsonFields text?, Json.Enters SearchRequest.size Json.word? "size" field := by
  simp only [jsonFields, List.forall_mem_cons]
  refine ⟨?_, ?_, ?size, ?_, ?_, ?_, ?_, ?_, ?_, ?_, ?_, fun _ isField => ?none⟩
  case size => exact .of_own fun _ _ => rfl
  case none => exact absurd isField List.not_mem_nil
  all_goals exact .of_other (by decide) fun _ _ => rfl

/-- The size that a text gives to the request it is read as. -/
def SizeGiven (text : String) (given : Option UInt64) : Prop :=
  ∃ tree, TextSpelling IsSource tree text.toList ∧
    FieldGiven sourceText? fieldNames "size" Json.word? tree given

theorem size_of_ofText? {text : String} {request : SearchRequest}
    (isRead : ofText? text = some request) :
    ∃ given, SizeGiven text given ∧ request.size = given.getD 20 := by
  obtain ⟨tree, isTree, isRequest⟩ := Option.bind_eq_some_iff.mp isRead
  have names := names_jsonFields sourceText?
  have nodup : ((jsonFields sourceText?).map Json.Field.name).Nodup := by
    rw [names]
    decide
  have isField : "size" ∈ (jsonFields sourceText?).map Json.Field.name := by
    rw [names]
    decide
  obtain ⟨given, isGiven, isSize⟩ :=
    Json.fieldGiven_of_recordOr? (enters_size sourceText?) nodup isField isRequest
  rw [names] at isGiven
  exact ⟨given, ⟨tree, (Json.read?_eq_some_iff _ _).mp isTree, isGiven⟩, isSize⟩

theorem SizeGiven.unique {text : String} {first second : Option UInt64}
    (isFirst : SizeGiven text first) (isSecond : SizeGiven text second) : first = second := by
  obtain ⟨tree, isTree, firstGiven⟩ := isFirst
  obtain ⟨other, isOther, secondGiven⟩ := isSecond
  rw [← Json.read?_eq_some_iff] at isTree isOther
  cases isTree.symm.trans isOther
  exact firstGiven.unique secondGiven

end SearchRequest

namespace Command

/-- The size that the file with the request gives, if there is such a file and it gives one. -/
inductive FileSize (place : Surroundings) : Option Path → Option UInt64 → Prop where
  | noFile : FileSize place none none
  | file {path : Path} {text : String} {given : Option UInt64} :
      place.files.read place.cwd path = .ok text → SearchRequest.SizeGiven text given →
      FileSize place (some path) given

theorem FileSize.unique {place : Surroundings} {path? : Option Path} {first second : Option UInt64}
    (isFirst : FileSize place path? first) (isSecond : FileSize place path? second) :
    first = second := by
  cases isFirst with
  | noFile =>
    cases isSecond
    rfl
  | file isText firstGiven =>
    cases isSecond with
    | file alsoText secondGiven =>
      cases isText.symm.trans alsoText
      exact firstGiven.unique secondGiven

theorem RequestOptions.size_build (file : Option SearchRequest) (options : RequestOptions)
    (pageSize : UInt64) :
    (build file options pageSize).size =
      options.size.getD (file.getD (base pageSize)).size :=
  rfl

/-- The size that the options build on. -/
theorem exists_fileSize {place : Surroundings} {path? : Option Path}
    {file : Option SearchRequest} (requested : Requested place path? file) (pageSize : UInt64) :
    ∃ given, FileSize place path? given ∧
      (file.getD (RequestOptions.base pageSize)).size =
        given.getD (if path? = none then pageSize else 20) := by
  cases requested with
  | none => exact ⟨none, .noFile, rfl⟩
  | file isText isRequest =>
    obtain ⟨given, isGiven, isSize⟩ := SearchRequest.size_of_ofText? isRequest
    exact ⟨given, .file isText isGiven, isSize⟩

theorem at?_size {index : IndexName} {request : SearchRequest} {access : Access}
    {provider : String} {compiled : CompiledQuery}
    (compiles : (request.compile index access provider).value = .ok compiled) :
    Json.at? ["size"] compiled.toJson = some (.ofWord request.size) := by
  obtain ⟨name, textual, _, _, rfl⟩ :=
    (SearchRequest.value_compile_eq_ok_iff index request access provider compiled).mp compiles
  rfl

/-- A run of a search that does not fail prints the query that nothing is wrong with. -/
theorem gives_of_succeeds {session : Session} {verbosity : Nat} {options : SearchOptions}
    (succeeds : (Invocation.run session ⟨verbosity, .inquire (.compile options)⟩).failure = none) :
    ∃ compact document, Gives session.toSurroundings (.compile options) compact document ∧
      (Invocation.run session ⟨verbosity, .inquire (.compile options)⟩).output =
        printed session.terminal compact document := by
  rw [run_inquire] at succeeds ⊢
  obtain ⟨failure, fails⟩ | ⟨compact, document, gives⟩ :=
    fails_or_gives session.toSurroundings (.search options)
  · rw [Outcome.failure_eq (answer_of_fails fails verbosity)] at succeeds
    cases succeeds
  · exact ⟨compact, document, gives, Outcome.output_eq (answer_of_gives gives verbosity)⟩

/-- The size of the query that is printed: that of the options, else that written in the file with
the request, else the default of requests if there is such a file, and only else that of the
settings. So the settings do not apply whenever no size is given: the one exception is a file that
gives none, if their size is not the default. -/
theorem printed_size_layers {session : Session} {verbosity : Nat} {options : SearchOptions}
    (succeeds : (Invocation.run session ⟨verbosity, .inquire (.compile options)⟩).failure = none) :
    ∃ settings document written size,
      session.load session.cwd = .ok settings ∧
      (Invocation.run session ⟨verbosity, .inquire (.compile options)⟩).output =
        printed session.terminal options.compact document ∧
      Json.value? (printed false options.compact document).toList = some document ∧
      Json.at? ["size"] document = some (.ofWord size) ∧
      (∀ given, FileSize session.toSurroundings options.requestFile given ↔ given = written) ∧
      size = options.request.size.getD
        (written.getD (if options.requestFile = none then settings.pageSize else 20)) ∧
      (size = options.request.size.getD (written.getD settings.pageSize) ↔
        ¬ (options.request.size = none ∧ options.requestFile ≠ none ∧ written = none ∧
          settings.pageSize ≠ 20)) := by
  obtain ⟨compact, document, gives, isOutput⟩ := gives_of_succeeds succeeds
  have isRead := value?_printed gives.wellSpelled compact
  cases gives with
  | @search _ settings file compiled loaded requested compiles =>
    obtain ⟨written, isWritten, isSize⟩ := exists_fileSize requested settings.pageSize
    have size : (RequestOptions.build file options.request settings.pageSize).size =
        options.request.size.getD
          (written.getD (if options.requestFile = none then settings.pageSize else 20)) := by
      rw [RequestOptions.size_build, isSize]
    have onlyWritten (given : Option UInt64) :
        FileSize session.toSurroundings options.requestFile given ↔ given = written :=
      ⟨fun isGiven => isGiven.unique isWritten, fun same => same ▸ isWritten⟩
    refine ⟨settings, _, written, _, loaded, isOutput, isRead, at?_size compiles, onlyWritten,
      size, ?_⟩
    rw [size]
    cases options.request.size with
    | some flag => simp
    | none =>
      cases written with
      | some given => simp
      | none =>
        by_cases noFile : options.requestFile = none
        · simp [noFile]
        · simp [noFile, eq_comm]

/-- Settings with a size, a file with a request that gives one too, and a file with one that gives
none. -/
def sizedPlace : Session where
  files := ⟨[(["work"], .directory),
    (["work", ".ftq.toml"],
      .file (.text "[index]\nname = \"docs\"\n[search]\npage_size = 15\n")),
    (["work", "sized.json"], .file (.text "\x7b\"size\": 5\x7d")),
    (["work", "bare.json"], .file (.text "{}"))]⟩
  cwd := ⟨"/work"⟩
  home := ⟨"/home"⟩

theorem printed_size_layers_sized_file :
    let options : SearchOptions :=
      { provider := "files", access := { viewer := "ann" }, requestFile := some ⟨"sized.json"⟩ }
    let outcome := Invocation.run sizedPlace ⟨0, .inquire (.compile options)⟩
    outcome.failure = none ∧
    ∃ settings document written size,
      sizedPlace.load sizedPlace.cwd = .ok settings ∧
      outcome.output = printed sizedPlace.terminal options.compact document ∧
      Json.value? (printed false options.compact document).toList = some document ∧
      Json.at? ["size"] document = some (.ofWord size) ∧
      (∀ given, FileSize sizedPlace.toSurroundings options.requestFile given ↔ given = written) ∧
      size = options.request.size.getD
        (written.getD (if options.requestFile = none then settings.pageSize else 20)) ∧
      (size = options.request.size.getD (written.getD settings.pageSize) ↔
        ¬ (options.request.size = none ∧ options.requestFile ≠ none ∧ written = none ∧
          settings.pageSize ≠ 20)) := by
  intro options outcome
  have succeeds : outcome.failure = none := by decide +kernel
  exact ⟨succeeds, @printed_size_layers sizedPlace 0 options succeeds⟩

/-- A file with the request that gives no size, in a place with settings that do. The query that is
printed does not have the size of the settings. -/
theorem bare_request_ignores_setting :
    ∃ options : SearchOptions,
      Invocation.ofArguments? ["compile", "-p", "files", "-u", "ann", "-r", "bare.json"] =
        some ⟨0, .inquire (.compile options)⟩ ∧
      options.request.size = none ∧
      FileSize sizedPlace.toSurroundings options.requestFile none ∧
      (sizedPlace.load sizedPlace.cwd).toOption.map Settings.pageSize = some 15 ∧
      (Invocation.run sizedPlace ⟨0, .inquire (.compile options)⟩).failure = none ∧
      ∃ document,
        Json.value? (Invocation.run sizedPlace ⟨0, .inquire (.compile options)⟩).output.toList =
          some document ∧
        Json.at? ["size"] document = some (.ofWord 20) := by
  let options : SearchOptions :=
    { provider := "files", access := { viewer := "ann" }, requestFile := some ⟨"bare.json"⟩ }
  have succeeds :
      (Invocation.run sizedPlace ⟨0, .inquire (.compile options)⟩).failure = none := by
    decide +kernel
  have isText : sizedPlace.files.read sizedPlace.cwd ⟨"bare.json"⟩ = .ok "{}" := by
    decide +kernel
  have nothing : SearchRequest.SizeGiven "{}" none := by
    refine ⟨.object [], (Json.read?_eq_some_iff _ _).mp rfl, .noMember ?_⟩
    exact fun _ isMember => absurd isMember List.not_mem_nil
  obtain ⟨compact, document, gives, isOutput⟩ := gives_of_succeeds succeeds
  refine ⟨options, by decide +kernel, rfl, .file isText nothing, by decide +kernel, succeeds,
    document, ?_, ?_⟩
  · rw [isOutput]
    exact value?_printed gives.wellSpelled compact
  · cases gives with
    | search loaded requested compiles =>
      cases requested with
      | file alsoText isRequest =>
        cases isText.symm.trans alsoText
        have isEmpty : SearchRequest.ofText? "{}" = some {} := by decide +kernel
        cases isEmpty.symm.trans isRequest
        exact at?_size compiles

end Command

end SearchQuery
