import SearchQuery.Proofs.Command.Failures

/-!
# Tokens and searches

The tokens of a search text are listed by one command and looked for by another. What is listed are
all tokens with, in order, just the terms that are extracted (`listing_analyze`), and the query has
one clause for each of these terms (`groupMembers_compose`). So the two commands fail for the same
words and agree on the others (`tokens_agree_with_search`).
-/

set_option autoImplicit false

namespace SearchQuery

open SearchQuery.Token (tokenize)

namespace Term

/-- The members of the textual node of a query: for each key of a polarity, at its first mention,
the clauses for the terms of that polarity. -/
def members (terms : List Term) (request : SearchRequest) : List (String × Json String) :=
  (terms.map (·.polarity.key)).eraseDups.map fun key =>
    (key, .array ((terms.filter (·.polarity.key = key)).map fun term =>
      (term.fanout request).toJson))

theorem groupMembers_compose {terms : List Term}
    (known : ∀ term ∈ terms, term.polarity ∈ [Polarity.must, .should, .mustNot])
    (request : SearchRequest) :
    Clause.groupMembers (composeQuery terms request).groups = members terms request := by
  let occurOf (term : Term) : Occur := Occur.ofPolarity term.polarity
  -- Groups of other kinds could share a key, but there are none for the known polarities.
  have plain : ∀ occur ∈ terms.map occurOf, occur.Plain :=
    List.forall_mem_map.mpr fun term member => plain_ofPolarity (known term member)
  have apart : ∀ first ∈ terms.map occurOf, ∀ second ∈ terms.map occurOf,
      first.key = second.key → first = second :=
    fun first isFirst second isSecond =>
      Occur.eq_of_key_eq (plain first isFirst) (plain second isSecond)
  have keys : terms.map (·.polarity.key) = (terms.map occurOf).map Occur.key := by
    rw [List.map_map]
    exact List.map_congr_left fun term _ => (Occur.key_ofPolarity term.polarity).symm
  rw [members, keys, Grouping.eraseDups_map apart, List.map_map, Clause.groupMembers_eq_map,
    groups_composeQuery, Grouping.foldl_add_eq_map occurOf fun term => [term.fanout request],
    List.map_map]
  refine List.map_congr_left fun occur isOccur => ?_
  have sameTerms : (terms.filter fun term => occurOf term = occur) =
      terms.filter (·.polarity.key = occur.key) := by
    refine List.filter_congr fun term member => decide_eq_decide.mpr ?_
    rw [← Occur.key_ofPolarity]
    constructor
    · exact congrArg Occur.key
    · exact apart _ (List.mem_map_of_mem member) occur (List.mem_eraseDups.mp isOccur)
  rw [Function.comp_apply, sameTerms, ← List.map_eq_flatMap, List.map_map]
  rfl

theorem toJson_compose {terms : List Term} {request : SearchRequest}
    (known : ∀ term ∈ terms, term.polarity ∈ [Polarity.must, .should, .mustNot]) :
    (compose terms request).toJson = .object [("bool", .object (members terms request))] := by
  rw [← groupMembers_compose known]
  rfl

end Term

namespace Command

namespace TokenReport

def term? (report : TokenReport) : Option Term :=
  report.result.toOption

/-- What is listed for a token: the term that it stands for, or why it is passed over. -/
inductive Lists (token : String) : Option Term → Json String → Prop where
  | term (term : Term) : Lists token (some term) (.object [
      ("token", .string token),
      ("word", .string term.word),
      ("polarity", .string term.polarity.key),
      ("match_mode", .string term.mode.key)])
  | skipped (reason : String) : Lists token none (.object [
      ("token", .string token),
      ("skipped", .string reason)])

theorem lists_toJson (report : TokenReport) :
    Lists report.token report.term? report.toJson := by
  obtain ⟨token, result⟩ := report
  cases result with
  | ok term => exact .term term
  | error error => exact .skipped error.message

theorem isWellSpelled_toJson (report : TokenReport) :
    Json.isWellSpelled report.toJson = true := by
  obtain ⟨token, result⟩ := report
  cases result with
  | ok term => rfl
  | error error => rfl

/-- The reports on the tokens of a search text: one for each of them, in order, and among these, in
order, just the terms that are extracted. -/
structure Listing (search : String) (reports : List TokenReport) : Prop where
  tokens : reports.map (·.token) = tokenize search
  entries : ∀ report ∈ reports, Lists report.token report.term? report.toJson
  terms : ∀ terms, (Term.extract search).value = .ok terms → reports.filterMap term? = terms
  noTerms : ∀ error, (Term.extract search).value = .error error → reports.filterMap term? = []

theorem filterMap_analyze (search : String) :
    (analyze search).filterMap term? =
      (tokenize search).filterMap fun token => (Term.ofToken token).toOption := by
  simp only [analyze, List.filterMap_map, Function.comp_def, term?]

theorem listing_analyze (search : String) : Listing search (analyze search) where
  tokens := by
    rw [analyze, List.map_map]
    exact List.map_id _
  entries report _ := report.lists_toJson
  terms terms found := by
    rw [filterMap_analyze]
    exact ((Term.value_extract_eq_ok_iff search terms).mp found).2.symm
  noTerms error found := by
    rw [filterMap_analyze]
    by_contra someTerms
    rw [(Term.value_extract_eq_ok_iff search _).mpr ⟨someTerms, rfl⟩] at found
    cases found

theorem any_hasTerm_iff (search : String) :
    (analyze search).any hasTerm = true ↔
      ∃ terms, (Term.extract search).value = .ok terms := by
  have isTerm (report : TokenReport) : report.hasTerm = true ↔ ∃ term, report.term? = some term := by
    obtain ⟨token, result⟩ := report
    cases result with
    | ok term => simp [hasTerm, term?, Except.isOk, Except.toBool, Except.toOption]
    | error error => simp [hasTerm, term?, Except.isOk, Except.toBool, Except.toOption]
  have listing := listing_analyze search
  rw [List.any_eq_true]
  simp only [isTerm]
  constructor
  · intro some
    obtain ⟨report, member, term, isTerm⟩ := some
    cases found : (Term.extract search).value with
    | ok terms => exact ⟨terms, rfl⟩
    | error error =>
      have none := List.filterMap_eq_nil_iff.mp (listing.noTerms error found) report member
      rw [isTerm] at none
      cases none
  · intro found
    obtain ⟨terms, found⟩ := found
    obtain ⟨term, member⟩ := List.exists_mem_of_ne_nil _
      ((Term.value_extract_eq_ok_iff search terms).mp found).1
    rw [← listing.terms terms found] at member
    obtain ⟨report, isReport, isTerm⟩ := List.mem_filterMap.mp member
    exact ⟨report, isReport, term, isTerm⟩

theorem value?_tokenJson (reports : List TokenReport) :
    Json.value? (tokenJson reports).toList = some (.array (reports.map toJson)) := by
  have wellSpelled : Json.isWellSpelled (.array (reports.map toJson)) = true :=
    (Json.allNumbers_array _ _).mpr
      (List.forall_mem_map.mpr fun report _ => report.isWellSpelled_toJson)
  exact value?_printed wellSpelled false

end TokenReport

/-!
## The two runs
-/

theorem failure_tokens_iff (options : TokenOptions) :
    options.answer.failure = none ↔
      ∃ terms, (Term.extract options.search).value = .ok terms := by
  rw [← TokenReport.any_hasTerm_iff, TokenOptions.answer]
  dsimp only
  split
  · rename_i has
    exact iff_of_true rfl has
  · rename_i hasNot
    exact iff_of_false nofun hasNot

end Command

theorem Outcome.exitCode_eq_zero_iff (outcome : Outcome) :
    outcome.exitCode = 0 ↔ outcome.failure = none := by
  have failing : (1 : UInt32) ≠ 0 := by decide
  unfold Outcome.exitCode
  cases outcome.failure with
  | none => exact iff_of_true rfl rfl
  | some failure => exact iff_of_false failing nofun

namespace Command

theorem answer_tokens {session : Session} {settings : Settings}
    (loaded : session.load session.cwd = .ok settings) (verbosity : Nat)
    (options : TokenOptions) :
    (Invocation.inquire session verbosity (.tokens options)).answer = options.answer :=
  answer_of_load loaded verbosity _

theorem gives_or_fails_of_extract {place : Surroundings} {settings : Settings}
    {options : SearchOptions} {file : Option SearchRequest} {name : String}
    (loaded : place.load place.cwd = .ok settings) (known : settings.index = .known name)
    (requested : Requested place options.requestFile file) {request : SearchRequest}
    (isRequest : request = RequestOptions.build file options.request settings.pageSize)
    (text : request.search ≠ ":null") :
    (∀ error, (Term.extract request.search).value = .error error →
      ∃ failure, Fails place (.compile options) failure) ∧
    ∀ terms, (Term.extract request.search).value = .ok terms →
      ∃ document, Gives place (.compile options) options.compact document ∧
        Json.at? ["body", "query", "bool", "must"] document =
          some (.array [.object [("bool", .object (Term.members terms request))]]) := by
  subst isRequest
  constructor
  · intro error none
    have blank := ((Term.value_extract_eq_error_iff _ _).mp none).1
    exact ⟨_, .noTerms loaded requested known rfl ⟨text, blank⟩⟩
  · intro terms found
    have part := SearchRequest.TextualPart.terms text found
    have compiles := (SearchRequest.value_compile_eq_ok_iff settings.index _ options.access
      options.provider _).mpr ⟨name, _, known, part, rfl⟩
    refine ⟨_, .search loaded requested compiles, ?_⟩
    rw [← Term.toJson_compose fun _ member => Term.known_of_extract found member]
    have atQuery (compiled : CompiledQuery) :
        Json.at? ["body", "query", "bool", "must"] compiled.toJson =
          Json.at? ["bool", "must"] compiled.query.toJson :=
      rfl
    rw [atQuery]
    dsimp only
    rw [SearchRequest.toJson_bodyQuery part]
    rfl

theorem exitCode_tokens_iff {session : Session} {settings : Settings}
    (loaded : session.load session.cwd = .ok settings) (verbosity : Nat)
    (options : TokenOptions) :
    (Invocation.run session ⟨verbosity, .inquire (.tokens options)⟩).exitCode = 0 ↔
      ∃ terms, (Term.extract options.search).value = .ok terms := by
  rw [run_inquire, Outcome.exitCode_eq_zero_iff,
    Outcome.failure_eq (answer_tokens loaded verbosity options), failure_tokens_iff]

/-- Listing the tokens of some words and searching for the words agree. The listing has all tokens,
and among them, in order, the terms that are extracted; it fails if there are none. If there is an
index, a search for the same words fails just when the listing does. Else it prints a query with one
required clause, which has under each polarity, in the order of the listing, the clauses for the
terms of that polarity. -/
theorem tokens_agree_with_search {session : Session} {settings : Settings} {words : List String}
    (loaded : session.load session.cwd = .ok settings) (hasWords : words ≠ [])
    (text : " ".intercalate words ≠ ":null") :
    let search := " ".intercalate words
    let listing (verbosity : Nat) (json : Bool) :=
      Invocation.run session ⟨verbosity, .inquire (.tokens ⟨words, json⟩)⟩
    ∃ reports, TokenReport.Listing search reports ∧
      (∀ verbosity json, (listing verbosity json).output =
        if json then tokenJson reports else tokenTable reports) ∧
      Json.value? (tokenJson reports).toList = some (.array (reports.map TokenReport.toJson)) ∧
      (∀ verbosity json, (listing verbosity json).exitCode = 0 ↔
        ∃ terms, (Term.extract search).value = .ok terms) ∧
      ∀ options name file verbosity, options.request.words = words →
        settings.index = .known name →
        Requested session.toSurroundings options.requestFile file →
        let request := RequestOptions.build file options.request settings.pageSize
        let outcome := Invocation.run session ⟨verbosity, .inquire (.compile options)⟩
        (∀ other json, outcome.exitCode = 0 ↔ (listing other json).exitCode = 0) ∧
        (outcome.exitCode = 0 → ∃ document,
          outcome.output = printed session.terminal options.compact document ∧
          Json.value? (printed false options.compact document).toList = some document ∧
          Json.at? ["body", "query", "bool", "must"] document = some (.array [.object
            [("bool", .object (Term.members (reports.filterMap TokenReport.term?) request))]])) := by
  intro search listing
  have reported := TokenReport.listing_analyze search
  have listed (verbosity : Nat) (json : Bool) : (listing verbosity json).exitCode = 0 ↔
      ∃ terms, (Term.extract search).value = .ok terms :=
    exitCode_tokens_iff loaded verbosity ⟨words, json⟩
  refine ⟨TokenReport.analyze search, reported, fun verbosity json => ?_,
    TokenReport.value?_tokenJson _, listed, ?_⟩
  · exact Outcome.output_eq (answer_tokens loaded verbosity ⟨words, json⟩)
  · intro options name file verbosity sameWords known requested request outcome
    have sameSearch : request.search = search := by
      rw [← sameWords] at hasWords
      rw [RequestOptions.search_build hasWords, sameWords]
    obtain ⟨fails, gives⟩ := gives_or_fails_of_extract loaded known requested
      (show request = _ from rfl) (sameSearch ▸ text)
    rw [sameSearch] at fails gives
    simp only [listed, Outcome.exitCode_eq_zero_iff]
    cases found : (Term.extract search).value with
    | error error =>
      obtain ⟨failure, fails⟩ := fails error found
      have failing : outcome.failure = some failure :=
        Outcome.failure_eq (answer_of_fails fails verbosity)
      rw [failing]
      exact ⟨fun _ _ => iff_of_false nofun nofun, nofun⟩
    | ok terms =>
      obtain ⟨document, gives, atMust⟩ := gives terms found
      have answer : outcome.answer = _ := answer_of_gives gives verbosity
      rw [reported.terms terms found]
      refine ⟨fun _ _ => iff_of_true (Outcome.failure_eq answer) ⟨terms, rfl⟩, fun _ => ?_⟩
      exact ⟨document, Outcome.output_eq answer, value?_printed gives.wellSpelled _, atMust⟩

/-- Two words that are required, one that is not, and one that is passed over. -/
theorem tokens_agree_with_search_mixed :
    let words := ["+a", "b", "-", "+c"]
    let options : SearchOptions :=
      { provider := "files", access := { viewer := "ann" }, request := { words } }
    let outcome := Invocation.run indexedPlace ⟨0, .inquire (.compile options)⟩
    let terms : List Term :=
      [⟨"a", .must, .fuzzy⟩, ⟨"b", .should, .fuzzy⟩, ⟨"c", .must, .fuzzy⟩]
    words ≠ [] ∧ " ".intercalate words ≠ ":null" ∧
    (∃ reports, TokenReport.Listing "+a b - +c" reports ∧
      reports.filterMap TokenReport.term? = terms) ∧
    outcome.exitCode = 0 ∧
    ∃ document request, Json.value? outcome.output.toList = some document ∧
      Json.at? ["body", "query", "bool", "must"] document =
        some (.array [.object [("bool", .object (Term.members terms request))]]) ∧
      (Term.members terms request).map (·.1) = ["must", "should"] := by
  intro words options outcome terms
  let settings : Settings := { indexName := some "docs", root := some ⟨"/work"⟩ }
  have loaded : indexedPlace.load indexedPlace.cwd = .ok settings := by decide +kernel
  have text : " ".intercalate words ≠ ":null" := by decide +kernel
  have joined : " ".intercalate words = "+a b - +c" := by decide +kernel
  have found : (Term.extract "+a b - +c").value = .ok terms := by decide +kernel
  have known : settings.index = .known "docs" := by decide +kernel
  obtain ⟨reports, listing, _, _, listed, agree⟩ :=
    tokens_agree_with_search loaded (by decide : words ≠ []) text
  rw [joined] at listing
  have isTerms := listing.terms terms found
  obtain ⟨both, searched⟩ := agree options "docs" none 0 rfl known .none
  have succeeds : outcome.exitCode = 0 :=
    (both 0 false).mpr ((listed 0 false).mpr ⟨terms, joined ▸ found⟩)
  obtain ⟨document, isOutput, isDocument, atMust⟩ := searched succeeds
  rw [isTerms] at atMust
  exact ⟨by decide, text, ⟨reports, listing, isTerms⟩, succeeds, document, _,
    (congrArg (fun text : String => Json.value? text.toList) isOutput).trans isDocument,
    atMust, by decide +kernel⟩

/-- Words are needed for that, and settings. Without words there is nothing to list the tokens of,
while a search without words looks for no text. If the settings cannot be loaded, the tokens are not
listed, whatever there is to extract. -/
theorem listing_needs_words_and_settings :
    let tokens : Call := { arguments := ["tokens"], cwd := ⟨"/work"⟩, home := ⟨"/home"⟩ }
    let search : Call := { tokens with arguments := ["compile", "-p", "files", "-u", "ann"] }
    let brokenFiles : FileTree :=
      ⟨[(["work"], .directory), (["work", ".ftq.toml"], .file (.text "[broken"))]⟩
    (" ".intercalate ([] : List String) ≠ ":null" ∧ search.exitCode indexedPlace.files = 0 ∧
      tokens.exitCode indexedPlace.files = Call.usageCode) ∧
    (Term.extract "a").value = .ok [⟨"a", .should, .fuzzy⟩] ∧
    ({ tokens with arguments := ["tokens", "a"] } : Call).exitCode brokenFiles = 1 := by
  decide +kernel

end Command

end SearchQuery
