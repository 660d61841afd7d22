import Mathlib.Data.List.Forall2
import SearchQuery.Query.Filter

/-!
# Which filters a query has

The filters of a query are known one by one: four that are always there, one for every group of
patterns with wildcards, and for every group of regular expressions one for each legacy payload in
it and one for its expressions, if it has any (`filters_listed`). Groups do not mix, and how the
payloads stand between the expressions of a group makes no difference
(`Interleaved.regexFilter_eq`): going through a group entry by entry, a payload adds a filter and an
expression is put by.
-/

set_option autoImplicit false

namespace SearchQuery

namespace FilterGroup

/-- A group of regular expressions with the given legacy payloads and the given other entries, each
in their order, interleaved in some way. -/
inductive Interleaved : List String → List FilterEntry → FilterGroup → Prop where
  | nil : Interleaved [] [] []
  | payload {payload : String} {payloads : List String} {expressions : List FilterEntry}
      {group : FilterGroup} :
      Interleaved payloads expressions group →
      Interleaved (payload :: payloads) expressions (⟨"info_msg", payload⟩ :: group)
  | expression {entry : FilterEntry} {payloads : List String} {expressions : List FilterEntry}
      {group : FilterGroup} :
      entry.field ≠ "info_msg" → Interleaved payloads expressions group →
      Interleaved payloads (entry :: expressions) (entry :: group)

/-- The filter of a legacy payload: all that it asks for is required. -/
def payloadNode (payload : String) : Clause :=
  .bool [(.must, (LegacyInfo.decode payload).value.clauses)]

/-- The filter of some regular expressions, of which any may fit. Without any there is none. -/
def expressionNodes : List FilterEntry → List Clause
  | [] => []
  | entries => [.bool [(.should, entries.map fun entry => .regexp entry.field entry.pattern)]]

theorem exists_interleaved (group : FilterGroup) :
    ∃ payloads expressions, Interleaved payloads expressions group := by
  induction group with
  | nil => exact ⟨[], [], .nil⟩
  | cons entry group ih =>
    obtain ⟨payloads, expressions, interleaved⟩ := ih
    obtain ⟨field, pattern⟩ := entry
    by_cases isPayload : field = "info_msg"
    · subst isPayload
      exact ⟨pattern :: payloads, expressions, .payload interleaved⟩
    · exact ⟨payloads, ⟨field, pattern⟩ :: expressions, .expression isPayload interleaved⟩

theorem isLegacy_payload (payload : String) :
    FilterEntry.isLegacy ⟨"info_msg", payload⟩ = true := by
  simp [FilterEntry.isLegacy, FilterEntry.legacyField]

theorem isLegacy_expression {entry : FilterEntry} (isExpression : entry.field ≠ "info_msg") :
    entry.isLegacy = false := by
  simp [FilterEntry.isLegacy, FilterEntry.legacyField, isExpression]

theorem events_regexFilter (group : FilterGroup) :
    group.regexFilter.events =
      (group.filter (·.isLegacy)).flatMap fun entry =>
        (LegacyInfo.decode entry.pattern).events := by
  simp only [regexFilter, legacyFilters, legacyFilter, Reported.events_bind, Reported.events_pure,
    Reported.events_forEach, List.append_nil]

section

variable {payloads : List String} {expressions : List FilterEntry} {group : FilterGroup}

theorem Interleaved.legacy_eq (interleaved : Interleaved payloads expressions group) :
    group.filter (·.isLegacy) = payloads.map (⟨"info_msg", ·⟩) := by
  induction interleaved with
  | nil => rfl
  | @payload payload _ _ _ _ ih =>
    rw [List.filter_cons_of_pos (isLegacy_payload payload), ih]
    rfl
  | expression isExpression _ ih =>
    rw [List.filter_cons_of_neg (by simp [isLegacy_expression isExpression]), ih]

theorem Interleaved.others_eq (interleaved : Interleaved payloads expressions group) :
    group.filter (!·.isLegacy) = expressions := by
  induction interleaved with
  | nil => rfl
  | @payload payload _ _ _ _ ih =>
    rw [List.filter_cons_of_neg (by simp [isLegacy_payload payload]), ih]
  | expression isExpression _ ih =>
    rw [List.filter_cons_of_pos (by simp [isLegacy_expression isExpression]), ih]

/-- The filters of a group are those of its payloads and then that of its expressions, and what the
payloads have to report is reported in their order. -/
theorem Interleaved.regexFilter_eq (interleaved : Interleaved payloads expressions group) :
    group.regexFilter =
      ⟨payloads.map payloadNode ++ expressionNodes expressions,
        payloads.flatMap fun payload => (LegacyInfo.decode payload).events⟩ := by
  have filters : group.legacyFilters.value = payloads.map payloadNode := by
    rw [legacyFilters, Reported.value_forEach, interleaved.legacy_eq, List.map_map]
    rfl
  have events : group.regexFilter.events =
      payloads.flatMap fun payload => (LegacyInfo.decode payload).events := by
    rw [events_regexFilter, interleaved.legacy_eq, List.flatMap_map]
  have others : group.expressionFilters = expressionNodes expressions := by
    rw [expressionFilters, interleaved.others_eq]
    cases expressions with
    | nil => rfl
    | cons entry others => rfl
  calc group.regexFilter
      = ⟨group.legacyFilters.value ++ group.expressionFilters, group.regexFilter.events⟩ := rfl
    _ = _ := by rw [filters, events, others]

theorem Interleaved.countP_payloads (interleaved : Interleaved payloads expressions group) :
    group.countP (·.field = "info_msg") = payloads.length := by
  induction interleaved with
  | nil => rfl
  | payload _ ih =>
    rw [List.countP_cons_of_pos (by simp), ih]
    rfl
  | expression isExpression _ ih =>
    rw [List.countP_cons_of_neg (by simp [isExpression]), ih]

theorem Interleaved.exists_expression_iff (interleaved : Interleaved payloads expressions group) :
    (∃ entry ∈ group, entry.field ≠ "info_msg") ↔ expressions ≠ [] := by
  induction interleaved with
  | nil => simp
  | payload _ ih => simp [ih]
  | expression isExpression _ _ => simp [isExpression]

end

/-! ## Groups of patterns -/

theorem wildcardFilters_append (first second : List FilterGroup) :
    wildcardFilters (first ++ second) = wildcardFilters first ++ wildcardFilters second :=
  List.map_append

theorem value_regexFilters (groups : List FilterGroup) :
    (regexFilters groups).value = (groups.map fun group => group.regexFilter.value).flatten := by
  simp only [regexFilters, Reported.value_bind, Reported.value_pure, Reported.value_forEach]

theorem events_regexFilters (groups : List FilterGroup) :
    (regexFilters groups).events = groups.flatMap fun group => group.regexFilter.events := by
  simp only [regexFilters, Reported.events_bind, Reported.events_pure, Reported.events_forEach,
    List.append_nil]

theorem regexFilters_append (first second : List FilterGroup) :
    regexFilters (first ++ second) =
      ⟨(regexFilters first).value ++ (regexFilters second).value,
        (regexFilters first).events ++ (regexFilters second).events⟩ := by
  have value : (regexFilters (first ++ second)).value =
      (regexFilters first).value ++ (regexFilters second).value := by
    simp only [value_regexFilters, List.map_append, List.flatten_append]
  have events : (regexFilters (first ++ second)).events =
      (regexFilters first).events ++ (regexFilters second).events := by
    simp only [events_regexFilters, List.flatMap_append]
  rw [← value, ← events]

theorem length_value_regexFilters (groups : List FilterGroup) :
    (regexFilters groups).value.length =
      groups.flatten.countP (·.field = "info_msg") +
        groups.countP fun group => group.any (·.field ≠ "info_msg") := by
  rw [value_regexFilters]
  induction groups with
  | nil => rfl
  | cons group groups ih =>
    obtain ⟨payloads, expressions, interleaved⟩ := exists_interleaved group
    have others : group.any (·.field ≠ "info_msg") = !expressions.isEmpty := by
      rw [Bool.eq_iff_iff, List.any_eq_true]
      simpa using interleaved.exists_expression_iff
    have nodes : (expressionNodes expressions).length = if expressions.isEmpty then 0 else 1 := by
      cases expressions <;> rfl
    rw [List.map_cons, List.flatten_cons, List.length_append, ih, interleaved.regexFilter_eq,
      List.length_append, List.length_map, nodes, List.flatten_cons, List.countP_append,
      interleaved.countP_payloads, List.countP_cons, others]
    cases expressions.isEmpty <;> simp <;> omega

end FilterGroup

namespace SearchRequest

open FilterGroup (Interleaved payloadNode expressionNodes)

/-- The filters of a request, one by one and in order, and how many there are. Groups of patterns
are looked at one by one, and it does not matter where the payloads of a group stand among its other
entries. -/
theorem filters_listed :
    (∀ (request : SearchRequest) (access : Access) (provider : String),
      (∃ regexes : List (List Clause),
        (request.filters access provider).value =
          [.bool [(.must, [.term "provider" provider])],
            .bool [(.should, access.clauses)],
            .bool [(.should, request.metaTags.map fun tag => .term "metatags" tag)],
            .bool [(.must, request.subTags.map fun tag => .term "subtags" tag)]] ++
          (request.wildcardFilters.map fun group =>
            .bool [(.should, group.map fun entry => .wildcard entry.field entry.pattern)]) ++
          regexes.flatten ∧
        List.Forall₂ (fun group nodes => ∃ payloads expressions,
          Interleaved payloads expressions group ∧
            nodes = payloads.map payloadNode ++ expressionNodes expressions)
          request.regexFilters regexes) ∧
      (request.filters access provider).value.length =
        4 + request.wildcardFilters.length +
          request.regexFilters.flatten.countP (·.field = "info_msg") +
          request.regexFilters.countP fun group => group.any (·.field ≠ "info_msg")) ∧
    (∀ first second : List FilterGroup,
      FilterGroup.wildcardFilters (first ++ second) =
        FilterGroup.wildcardFilters first ++ FilterGroup.wildcardFilters second ∧
      (FilterGroup.regexFilters (first ++ second)).value =
        (FilterGroup.regexFilters first).value ++ (FilterGroup.regexFilters second).value ∧
      (FilterGroup.regexFilters (first ++ second)).events =
        (FilterGroup.regexFilters first).events ++ (FilterGroup.regexFilters second).events) ∧
    (∀ (payloads : List String) (expressions : List FilterEntry) (group other : FilterGroup),
      Interleaved payloads expressions group → Interleaved payloads expressions other →
        FilterGroup.regexFilters [group] = FilterGroup.regexFilters [other]) := by
  refine ⟨fun request access provider => ⟨?_, ?_⟩, fun first second => ?_, ?_⟩
  · refine ⟨request.regexFilters.map fun group => group.regexFilter.value, ?_, ?_⟩
    · rw [← FilterGroup.value_regexFilters]
      rfl
    · rw [List.forall₂_map_right_iff, List.forall₂_same]
      intro group _
      obtain ⟨payloads, expressions, interleaved⟩ := FilterGroup.exists_interleaved group
      exact ⟨payloads, expressions, interleaved, by rw [interleaved.regexFilter_eq]⟩
  · have parts : (request.filters access provider).value.length =
        4 + (FilterGroup.wildcardFilters request.wildcardFilters).length +
          (FilterGroup.regexFilters request.regexFilters).value.length := by
      simp only [filters, Reported.value_bind, Reported.value_pure, List.length_append]
      rfl
    rw [parts, FilterGroup.wildcardFilters, List.length_map, FilterGroup.length_value_regexFilters,
      Nat.add_assoc, Nat.add_assoc, Nat.add_assoc]
  · rw [FilterGroup.regexFilters_append]
    exact ⟨FilterGroup.wildcardFilters_append first second, rfl, rfl⟩
  · intro payloads expressions group other interleaved otherInterleaved
    have same : group.regexFilter = other.regexFilter :=
      interleaved.regexFilter_eq.trans otherInterleaved.regexFilter_eq.symm
    simp only [FilterGroup.regexFilters, Reported.forEach, same]

theorem filters_listed_payload_between :
    let payload := "\x7b\"author\":\"alice\",\"end\":[]\x7d"
    let between : FilterGroup := [⟨"title", "rep.*"⟩, ⟨"info_msg", payload⟩, ⟨"name", "b"⟩]
    let inFront : FilterGroup := [⟨"info_msg", payload⟩, ⟨"title", "rep.*"⟩, ⟨"name", "b"⟩]
    Interleaved [payload] [⟨"title", "rep.*"⟩, ⟨"name", "b"⟩] between ∧
      Interleaved [payload] [⟨"title", "rep.*"⟩, ⟨"name", "b"⟩] inFront ∧
      FilterGroup.regexFilters [between] = FilterGroup.regexFilters [inFront] := by
  intro payload between inFront
  have isTitle : "title" ≠ "info_msg" := by decide
  have isName : "name" ≠ "info_msg" := by decide
  have isBetween : Interleaved [payload] [⟨"title", "rep.*"⟩, ⟨"name", "b"⟩] between :=
    .expression isTitle (.payload (.expression isName .nil))
  have isInFront : Interleaved [payload] [⟨"title", "rep.*"⟩, ⟨"name", "b"⟩] inFront :=
    .payload (.expression isTitle (.expression isName .nil))
  exact ⟨isBetween, isInFront, filters_listed.2.2 _ _ _ _ isBetween isInFront⟩

end SearchRequest

end SearchQuery
