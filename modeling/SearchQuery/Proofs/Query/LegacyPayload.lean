import SearchQuery.Proofs.Json.LastMember
import SearchQuery.Proofs.Json.Limits
import SearchQuery.Proofs.Json.NumberText
import SearchQuery.Proofs.Query.FilterEntries
import SearchQuery.Query.Compile

/-!
# What a legacy payload decodes to

A payload that is no JSON object decodes to the defaults, with one warning. In an object, each field
is decided by the last member of its name alone: `Gives` says which text it gets and what is
reported, for every kind of value there (`decode_degrades`). The warnings of a compilation are those
of its payloads, one payload after the other.
-/

set_option autoImplicit false

namespace SearchQuery

open SearchQuery.Json (IsEscaped LastValue TextSpelling)

namespace LegacyInfo

/-- A payload that the reader takes: a JSON text of the value, with no more than 127 arrays and
objects in each other, and with numbers in the range of doubles. -/
structure IsPayload (value : Json String) (payload : String) : Prop where
  spelled : TextSpelling IsEscaped value payload.toList
  nested : value.NestedWithin 127
  inRange : ∀ numeral, value.HasNumber numeral → numeral.InRange

theorem allNumbers_text?_iff {value : Json String} :
    value.allNumbers (·.text?.isSome) = true ↔
      ∀ numeral, value.HasNumber numeral → numeral.InRange := by
  simp only [Json.allNumbers_iff, Numeral.text?_isSome_iff]

theorem strictValue?_eq_some_iff {payload : String} {value : Json String} :
    Json.strictValue? payload = some value ↔ IsPayload value payload := by
  have reads : Json.value? payload.toList = some value ↔ _ := Json.value?_eq_some_iff _ _
  rw [Json.value?, Option.bind_eq_some_iff] at reads
  unfold Json.strictValue?
  constructor
  · intro found
    split at found
    · cases found
    · rename_i tree isTree
      split at found
      · rename_i limits
        obtain ⟨nested, inRange⟩ := Bool.and_eq_true_iff.mp limits
        refine ⟨reads.mp ⟨tree, isTree, found⟩, ?_, ?_⟩
        · exact Json.depth_le_iff.mp (Json.depth_of_mapTexts? found ▸ of_decide_eq_true nested)
        · exact allNumbers_text?_iff.mp ((Json.allNumbers_of_mapTexts? _ found).trans inRange)
      · cases found
  · intro isPayload
    obtain ⟨tree, isTree, isValue⟩ := reads.mpr isPayload.spelled
    have nested : tree.depth ≤ 127 :=
      Json.depth_of_mapTexts? isValue ▸ Json.depth_le_iff.mpr isPayload.nested
    have inRange := (Json.allNumbers_of_mapTexts? _ isValue).symm.trans
      (allNumbers_text?_iff.mpr isPayload.inRange)
    simp [isTree, Json.greatestDepth, nested, inRange, isValue]

theorem IsPayload.hasText {members : List (String × Json String)} {payload : String}
    (isPayload : IsPayload (.object members) payload) {key : String} {numeral : Numeral}
    (isMember : (key, .number numeral) ∈ members) : numeral.text?.isSome = true :=
  Numeral.text?_isSome_iff.mpr (isPayload.inRange _ (.object isMember .number))

/-! ## Fields -/

/-- The warning about a member that is neither a string nor a number. -/
def ignored (key kind : String) : Event :=
  ⟨.warn, "ftq_mapping::legacy", "ignoring legacy field",
    [("key", .text key), ("kind", .text kind)]⟩

/-- The text that a field gets from the value of its member, and what is reported. -/
inductive Gives (key default : String) : Option (Json String) → String → List Event → Prop where
  | missing : Gives key default none default []
  | null : Gives key default (some .null) default []
  | string {text : String} : Gives key default (some (.string text)) text []
  | number {numeral : Numeral} {text : String} :
      numeral.IsText text → Gives key default (some (.number numeral)) text []
  | bool {value : Bool} : Gives key default (some (.bool value)) default [ignored key "bool"]
  | array {items : List (Json String)} :
      Gives key default (some (.array items)) default [ignored key "array"]
  | object {members : List (String × Json String)} :
      Gives key default (some (.object members)) default [ignored key "object"]

/-- The text that a field gets from the members of an object, and what is reported. -/
def FieldGives (members : List (String × Json String)) (key default text : String)
    (events : List Event) : Prop :=
  ∃ found, LastValue key members found ∧ Gives key default found text events

theorem fieldGives_memberText {members : List (String × Json String)} {payload : String}
    (isPayload : IsPayload (.object members) payload) (key default : String) :
    FieldGives members key default (memberText members key default).value
      (memberText members key default).events := by
  obtain ⟨found, isLast⟩ := Json.exists_lastValue key members
  refine ⟨found, isLast, ?_⟩
  rw [memberText, isLast.member?_eq]
  cases found with
  | none => exact .missing
  | some value =>
    cases value with
    | null => exact .null
    | bool _ => exact .bool
    | string _ => exact .string
    | array _ => exact .array
    | object _ => exact .object
    | number numeral =>
      obtain ⟨text, hasText⟩ := Option.isSome_iff_exists.mp (isPayload.hasText isLast.mem)
      simp only [scalarText?, hasText]
      exact .number (Numeral.text?_eq_some_iff.mp hasText)

theorem memberText_congr {members others : List (String × Json String)} {key : String}
    (same : ∀ found, LastValue key members found ↔ LastValue key others found)
    (default : String) : memberText members key default = memberText others key default := by
  obtain ⟨found, isLast⟩ := Json.exists_lastValue key members
  rw [memberText, memberText, isLast.member?_eq, ((same found).mp isLast).member?_eq]

/-! ## Payloads -/

theorem decode_object {members : List (String × Json String)} {payload : String}
    (isPayload : IsPayload (.object members) payload) :
    decode payload =
      ⟨{ author := (memberText members "author" "").value
         recipient := (memberText members "recipient" "").value
         start := (memberText members "start" "0").value
         finish := (memberText members "end" "0").value },
        (memberText members "author" "").events ++ ((memberText members "recipient" "").events ++
          ((memberText members "start" "0").events ++ (memberText members "end" "0").events))⟩ := by
  rw [decode, strictValue?_eq_some_iff.mpr isPayload,
    ← List.append_nil (memberText members "end" "0").events]
  rfl

theorem decode_no_object {value : Json String} {payload : String}
    (isPayload : IsPayload value payload) (noObject : ∀ members, value ≠ .object members) :
    decode payload =
      ⟨{}, [⟨.warn, "ftq_mapping::legacy", "legacy payload is not an object",
        [("payload", .text payload), ("kind", .text value.kind)]⟩]⟩ := by
  rw [decode, strictValue?_eq_some_iff.mpr isPayload]
  cases value with
  | object members => exact absurd rfl (noObject members)
  | null | bool _ | number _ | string _ | array _ => rfl

theorem decode_no_payload {payload : String} (noPayload : ∀ value, ¬ IsPayload value payload) :
    decode payload =
      ⟨{}, [⟨.warn, "ftq_mapping::legacy", "malformed legacy payload",
        [("payload", .text payload), ("error", .unstated)]⟩]⟩ := by
  have nothing : Json.strictValue? payload = none := by
    cases found : Json.strictValue? payload with
    | none => rfl
    | some value => exact absurd (strictValue?_eq_some_iff.mp found) (noPayload value)
  rw [decode, nothing]
  rfl

theorem Gives.level_eq {key default text : String} {found : Option (Json String)}
    {events : List Event} (gives : Gives key default found text events) :
    ∀ event ∈ events, event.level = .warn := by
  cases gives with
  | missing | null | string | number => simp
  | bool | array | object => simp [ignored]

/-- Decoding reports nothing but warnings. -/
theorem level_of_mem_events_decode {payload : String} {event : Event}
    (isReported : event ∈ (decode payload).events) : event.level = .warn := by
  by_cases isAny : ∃ value, IsPayload value payload
  · obtain ⟨value, isPayload⟩ := isAny
    by_cases isObject : ∃ members, value = .object members
    · obtain ⟨members, rfl⟩ := isObject
      have level {key default : String}
          (inField : event ∈ (memberText members key default).events) : event.level = .warn := by
        obtain ⟨_, _, gives⟩ := fieldGives_memberText isPayload key default
        exact gives.level_eq event inField
      rw [decode_object isPayload] at isReported
      simp only [List.mem_append] at isReported
      obtain inField | inField | inField | inField := isReported <;> exact level inField
    · rw [decode_no_object isPayload (not_exists.mp isObject)] at isReported
      rw [List.mem_singleton.mp isReported]
  · rw [decode_no_payload (not_exists.mp isAny)] at isReported
    rw [List.mem_singleton.mp isReported]

end LegacyInfo

/-! ## Compilations -/

/-- The warnings among the events of a computation. -/
def Reported.warnings {α : Type} (computation : Reported α) : List Event :=
  computation.events.filter (·.level = .warn)

theorem LegacyInfo.warnings_decode (payload : String) :
    (decode payload).warnings = (decode payload).events :=
  List.filter_eq_self.mpr fun _ isReported => decide_eq_true (level_of_mem_events_decode isReported)

namespace SearchRequest

/-- The legacy payloads of a request, group by group. -/
def payloads (request : SearchRequest) : List String :=
  (request.regexFilters.flatten.filter (·.field = "info_msg")).map (·.pattern)

theorem level_of_mem_events_extract {search : String} {event : Event}
    (isReported : event ∈ (Term.extract search).events) : event.level = .trace := by
  simp only [Term.extract, Term.ofTokens, Reported.events_bind, Reported.events_pure,
    List.append_nil, Reported.events_forEach, List.mem_flatMap] at isReported
  obtain ⟨token, _, isReported⟩ := isReported
  unfold Term.ofToken? at isReported
  split at isReported
  · cases isReported
  · obtain rfl := List.mem_singleton.mp isReported
    rfl

theorem warnings_textualClauses (request : SearchRequest) :
    request.textualClauses.warnings = [] := by
  apply List.filter_eq_nil_iff.mpr
  intro event isReported
  unfold textualClauses at isReported
  split at isReported
  · rw [Reported.events_bind, List.mem_append] at isReported
    obtain inTerms | inNote := isReported
    · simp [level_of_mem_events_extract inTerms]
    · split at inNote
      · cases inNote
      · obtain rfl := List.mem_singleton.mp inNote
        simp [note]
  · cases isReported

theorem events_filters (request : SearchRequest) (access : Access) (provider : String) :
    (request.filters access provider).events =
      request.payloads.flatMap fun payload => (LegacyInfo.decode payload).events := by
  have ofGroups (groups : List FilterGroup) :
      (FilterGroup.regexFilters groups).events =
        (groups.flatten.filter (·.field = "info_msg")).flatMap fun entry =>
          (LegacyInfo.decode entry.pattern).events := by
    induction groups with
    | nil => rfl
    | cons group rest ih =>
      rw [FilterGroup.events_regexFilters] at ih ⊢
      rw [List.flatMap_cons, ih, FilterGroup.events_regexFilter, List.flatten_cons,
        List.filter_append, List.flatMap_append]
      rfl
  rw [filters, Reported.events_bind, Reported.events_pure, List.append_nil, ofGroups, payloads,
    List.flatMap_map]

theorem warnings_filters (request : SearchRequest) (access : Access) (provider : String) :
    (request.filters access provider).warnings =
      request.payloads.flatMap fun payload => (LegacyInfo.decode payload).events := by
  rw [Reported.warnings, events_filters, List.filter_flatMap]
  exact congrArg (request.payloads.flatMap ·) (funext LegacyInfo.warnings_decode)

/-- A compilation that succeeds reports the warnings of its payloads, in order; one that fails
breaks off before it gets to them. -/
theorem warnings_compile (index : IndexName) (request : SearchRequest) (access : Access)
    (provider : String) :
    (∀ compiled, (request.compile index access provider).value = .ok compiled →
      (request.compile index access provider).warnings =
        request.payloads.flatMap fun payload => (LegacyInfo.decode payload).events) ∧
    (∀ error, (request.compile index access provider).value = .error error →
      (request.compile index access provider).warnings = []) := by
  cases index with
  | missing =>
    refine ⟨fun compiled compiles => ?_, fun _ _ => rfl⟩
    cases compiles
  | known name =>
    have inText := request.warnings_textualClauses
    have inFilters := request.warnings_filters access provider
    rw [Reported.warnings] at inText inFilters
    simp only [compile, Reported.value_bind, Reported.warnings, Reported.events_bind,
      List.filter_append, inText, List.nil_append]
    cases request.textualClauses.value with
    | error error =>
      refine ⟨fun compiled compiles => ?_, fun _ _ => rfl⟩
      cases compiles
    | ok textual =>
      refine ⟨fun compiled _ => ?_, fun error fails => ?_⟩
      · simp [inFilters, note]
      · cases fails

end SearchRequest

namespace LegacyInfo

/-- What every text decodes to as a legacy payload, with all warnings, and which warnings of
payloads a compilation reports. -/
theorem decode_degrades :
    (∀ payload : String, (∀ value, ¬ IsPayload value payload) →
      decode payload =
        ⟨{ author := "", recipient := "", start := "0", finish := "0" },
          [⟨.warn, "ftq_mapping::legacy", "malformed legacy payload",
            [("payload", .text payload), ("error", .unstated)]⟩]⟩) ∧
    (∀ (payload : String) (value : Json String), IsPayload value payload →
      (∀ members, value ≠ .object members) →
      decode payload =
        ⟨{ author := "", recipient := "", start := "0", finish := "0" },
          [⟨.warn, "ftq_mapping::legacy", "legacy payload is not an object",
            [("payload", .text payload), ("kind", .text value.kind)]⟩]⟩) ∧
    (∀ (payload : String) (members : List (String × Json String)),
      IsPayload (.object members) payload →
      ∃ author recipient start finish : List Event,
        FieldGives members "author" "" (decode payload).value.author author ∧
        FieldGives members "recipient" "" (decode payload).value.recipient recipient ∧
        FieldGives members "start" "0" (decode payload).value.start start ∧
        FieldGives members "end" "0" (decode payload).value.finish finish ∧
        (decode payload).events = author ++ recipient ++ start ++ finish) ∧
    (∀ (payload other : String) (members others : List (String × Json String)),
      IsPayload (.object members) payload → IsPayload (.object others) other →
      (∀ key ∈ ["author", "recipient", "start", "end"], ∀ found,
        LastValue key members found ↔ LastValue key others found) →
      decode payload = decode other) ∧
    ∀ (index : IndexName) (request : SearchRequest) (access : Access) (provider : String),
      (∀ compiled, (request.compile index access provider).value = .ok compiled →
        (request.compile index access provider).warnings =
          (request.payloads.flatMap fun payload => (decode payload).events) ∧
        (request.compile index access provider).warnings.length =
          (request.payloads.map fun payload => (decode payload).events.length).sum) ∧
      (∀ error, (request.compile index access provider).value = .error error →
        (request.compile index access provider).warnings = []) := by
  refine ⟨fun _ noPayload => decode_no_payload noPayload,
    fun _ _ isPayload noObject => decode_no_object isPayload noObject, ?_, ?_, ?_⟩
  · intro payload members isPayload
    have gives := fieldGives_memberText isPayload
    rw [decode_object isPayload]
    refine ⟨_, _, _, _, gives "author" "", gives "recipient" "", gives "start" "0",
      gives "end" "0", ?_⟩
    simp only [List.append_assoc]
  · intro payload other members others isPayload isOther same
    have sameText {key : String} (isKey : key ∈ ["author", "recipient", "start", "end"])
        (default : String) : memberText members key default = memberText others key default :=
      memberText_congr (same key isKey) default
    rw [decode_object isPayload, decode_object isOther, sameText (by decide),
      sameText (by decide), sameText (by decide), sameText (by decide)]
  · intro index request access provider
    obtain ⟨whole, brokenOff⟩ := request.warnings_compile index access provider
    refine ⟨fun compiled compiles => ⟨whole compiled compiles, ?_⟩, brokenOff⟩
    rw [whole compiled compiles, List.length_flatMap]

theorem decode_degrades_three_payloads :
    let malformed : Event := ⟨.warn, "ftq_mapping::legacy", "malformed legacy payload",
      [("payload", .text "not json"), ("error", .unstated)]⟩
    let noObject : Event := ⟨.warn, "ftq_mapping::legacy", "legacy payload is not an object",
      [("payload", .text "[1, 2]"), ("kind", .text "array")]⟩
    let twice := "\x7b\"author\":[1],\"\\u0061uthor\":\"al\",\"end\":1.50\x7d"
    let members : List (String × Json String) :=
      [("author", .array [.number (.ofNat 1)]), ("author", .string "al"),
        ("end", .number ⟨false, ['1'], ['5', '0'], none⟩)]
    let request : SearchRequest := {
      regexFilters := [[⟨"title", "a.*"⟩, ⟨"info_msg", "not json"⟩], [⟨"info_msg", "[1, 2]"⟩]] }
    (request.compile (.known "documents") {} "files").warnings = [malformed, noObject] ∧
      (∃ events, FieldGives members "author" "" (decode twice).value.author events) ∧
      (decode twice).value.finish = "1.5" := by
  intro malformed noObject twice members request
  have noPayload : ∀ value, ¬ IsPayload value "not json" := by
    intro value isPayload
    have nothing : Json.strictValue? "not json" = none := by decide +kernel
    rw [strictValue?_eq_some_iff.mpr isPayload] at nothing
    cases nothing
  have isPayload {value : Json String} {payload : String}
      (isValue : Json.value? payload.toList = some value) (flat : value.depth ≤ 127)
      (inRange : value.allNumbers (·.text?.isSome) = true) : IsPayload value payload :=
    ⟨(Json.value?_eq_some_iff _ _).mp isValue, Json.depth_le_iff.mp flat,
      allNumbers_text?_iff.mp inRange⟩
  have isArray : IsPayload (.array [.number ⟨false, ['1'], [], none⟩,
      .number ⟨false, ['2'], [], none⟩]) "[1, 2]" :=
    isPayload (Json.value?_eq_some_of_chars (by decide +kernel) (by decide +kernel)) (by decide)
      (by decide +kernel)
  have isTwice : IsPayload (.object members) twice :=
    isPayload (Json.value?_eq_some_of_chars (by decide +kernel) (by decide +kernel)) (by decide)
      (by decide +kernel)
  refine ⟨?_, ?_⟩
  · have first := decode_degrades.1 "not json" noPayload
    have second := decode_degrades.2.1 "[1, 2]" _ isArray (by simp)
    have compiled := (decode_degrades.2.2.2.2 (.known "documents") request {} "files").1 _ rfl
    have payloads : request.payloads = ["not json", "[1, 2]"] := by decide
    rw [compiled.1, payloads]
    simp only [List.flatMap_cons, List.flatMap_nil, first, second]
    rfl
  · obtain ⟨events, _, _, _, author, _, _, ⟨found, isLast, gives⟩, _⟩ :=
      decode_degrades.2.2.1 twice members isTwice
    refine ⟨⟨events, author⟩, ?_⟩
    obtain rfl : found = some (.number ⟨false, ['1'], ['5', '0'], none⟩) := isLast.member?_eq.symm
    generalize (decode twice).value.finish = text at gives
    cases gives with
    | number isText =>
      have hasText := Numeral.text?_eq_some_iff.mpr isText
      have digits : Numeral.text? ⟨false, ['1'], ['5', '0'], none⟩ = some "1.5" := by
        decide +kernel
      exact Option.some.inj (hasText.symm.trans digits)

end LegacyInfo

end SearchQuery
