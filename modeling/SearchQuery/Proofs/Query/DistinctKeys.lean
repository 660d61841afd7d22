import SearchQuery.Proofs.Json.Nodes
import SearchQuery.Proofs.Query.Confinement
import SearchQuery.Proofs.Query.TextSearch

/-!
# Keys of compiled queries

Two lists are written as objects: the groups of a node and the fields to highlight. The groups of a
compiled query differ in their keys, because they differ, and none of them borrows the key of
another. The fields to highlight are listed as often as the request names them: a part that is named
twice gives its key twice, and the value that the text stands for has lost one of the two members
(`compile_keysDistinct_iff`).
-/

set_option autoImplicit false

namespace SearchQuery

open SearchQuery.Json (keysDistinct_array_iff keysDistinct_object_iff)

theorem Json.keysDistinct_ofStrings (texts : List String) :
    (Json.ofStrings texts).keysDistinct = true :=
  (keysDistinct_array_iff _).mpr (List.forall_mem_map.mpr fun _ _ => rfl)

/-!
## Groups
-/

namespace Occur

/-- The group does not borrow the key of a group that has a key of its own. -/
def Plain : Occur → Prop
  | other key => key ∉ ["must", "should", "must_not", "filter"]
  | _ => True

theorem eq_of_key_eq {first second : Occur} (plainFirst : first.Plain)
    (plainSecond : second.Plain) (same : first.key = second.key) : first = second := by
  cases first <;> cases second <;> simp_all [key, Plain]

theorem nodup_map_key {occurs : List Occur} (distinct : occurs.Nodup)
    (plain : ∀ occur ∈ occurs, occur.Plain) : (occurs.map key).Nodup :=
  (List.nodup_map_iff_inj_on distinct).mpr fun first isFirst second isSecond same =>
    eq_of_key_eq (plain first isFirst) (plain second isSecond) same

end Occur

/-!
## Clauses
-/

namespace Clause

theorem keysDistinct_entry (key : String) (value : Json String) :
    (entry key value).keysDistinct = value.keysDistinct := by
  simp [entry, Json.keysDistinct, Json.memberKeysDistinct, Json.keys]

theorem keysDistinct_leaf {clause : Clause} (isLeaf : clause.toBool? = none) :
    clause.toJson.keysDistinct = true := by
  cases clause with
  | bool groups => cases isLeaf
  | term _ _ | matching _ _ _ | wildcard _ _ | regexp _ _ =>
    rw [toJson, keysDistinct_entry, keysDistinct_entry]
    rfl
  | queryString fields query =>
    rw [toJson, keysDistinct_entry, keysDistinct_object_iff]
    refine ⟨show ["fields", "query"].Nodup by decide, fun member isMember => ?_⟩
    simp only [List.mem_cons, List.not_mem_nil, or_false] at isMember
    rcases isMember with rfl | rfl
    · exact Json.keysDistinct_ofStrings fields
    · rfl
  | range field atLeast atMost =>
    rw [toJson, keysDistinct_entry, keysDistinct_entry]
    cases atLeast <;> cases atMost <;> rfl

/-- What is written for a node has distinct keys when the keys of its groups are distinct and all
its clauses are written with distinct keys. -/
theorem keysDistinct_bool_iff (groups : List (Occur × List Clause)) :
    (bool groups).toJson.keysDistinct = true ↔
      ((groups.map (·.1)).map Occur.key).Nodup ∧
        ∀ group ∈ groups, ∀ clause ∈ group.2, clause.toJson.keysDistinct = true := by
  have sameKeys : Json.keys (groupMembers groups) = (groups.map (·.1)).map Occur.key := by
    rw [groupMembers_eq_map, Json.keys, List.map_map, List.map_map]
    rfl
  rw [toJson, keysDistinct_entry, keysDistinct_object_iff, sameKeys, groupMembers_eq_map]
  simp only [List.forall_mem_map, keysDistinct_array_iff]

/-- A node with one group, all of whose clauses are no nodes. -/
inductive Flat : Clause → Prop where
  | intro (occur : Occur) {clauses : List Clause}
      (leaves : ∀ clause ∈ clauses, clause.toBool? = none) : Flat (.ofGroup occur clauses)

theorem Flat.ofMap {Source : Type} (occur : Occur) {build : Source → Clause}
    (leaves : ∀ source, (build source).toBool? = none) (sources : List Source) :
    Flat (.ofGroup occur (sources.map build)) :=
  .intro occur (List.forall_mem_map.mpr fun source _ => leaves source)

theorem Flat.keysDistinct {clause : Clause} (flat : Flat clause) :
    clause.toJson.keysDistinct = true := by
  obtain ⟨occur, leaves⟩ := flat
  refine (keysDistinct_bool_iff [(occur, _)]).mpr ⟨List.nodup_singleton _, ?_⟩
  intro group isGroup clause member
  rw [List.mem_singleton.mp isGroup] at member
  exact keysDistinct_leaf (leaves clause member)

end Clause

/-!
## Filters
-/

theorem FilterGroup.flat_of_mem_regexFilters {groups : List FilterGroup} {clause : Clause}
    (member : clause ∈ (FilterGroup.regexFilters groups).value) : clause.Flat := by
  simp only [FilterGroup.regexFilters, Reported.value_bind, Reported.value_pure,
    Reported.value_forEach] at member
  obtain ⟨_, isFilters, inFilters⟩ := List.mem_flatten.mp member
  obtain ⟨group, _, rfl⟩ := List.mem_map.mp isFilters
  simp only [FilterGroup.regexFilter, Reported.value_bind, Reported.value_pure,
    FilterGroup.legacyFilters, Reported.value_forEach, List.mem_append] at inFilters
  rcases inFilters with isLegacy | isExpression
  · obtain ⟨entry, _, rfl⟩ := List.mem_map.mp isLegacy
    exact .intro .must fun clause => LegacyInfo.toBool?_of_mem_clauses
  · unfold FilterGroup.expressionFilters at isExpression
    split at isExpression
    · cases isExpression
    · rw [List.mem_singleton.mp isExpression]
      exact .ofMap .should (fun _ => rfl) _

theorem Access.flat_filter (access : Access) : access.filter.Flat := by
  refine .intro .should fun clause member => ?_
  simp only [Access.clauses, List.mem_append, List.mem_cons, List.not_mem_nil, or_false,
    List.mem_map] at member
  rcases member with ((rfl | rfl | rfl) | ⟨group, _, rfl⟩) | ⟨circle, _, rfl⟩ <;> rfl

theorem SearchRequest.flat_of_mem_filters {request : SearchRequest} {access : Access}
    {provider : String} {clause : Clause}
    (member : clause ∈ (request.filters access provider).value) : clause.Flat := by
  rw [SearchRequest.value_filters] at member
  simp only [List.mem_cons, List.mem_append, List.not_mem_nil, or_false] at member
  rcases member with rfl | rfl | ((rfl | rfl) | isWildcard) | isRegex
  · exact .ofMap .must (fun _ => rfl) [provider]
  · exact access.flat_filter
  · exact .ofMap .should (fun _ => rfl) request.metaTags
  · exact .ofMap .must (fun _ => rfl) request.subTags
  · obtain ⟨group, _, rfl⟩ := List.mem_map.mp isWildcard
    exact .ofMap .should (fun _ => rfl) group
  · exact FilterGroup.flat_of_mem_regexFilters isRegex

/-!
## Terms
-/

namespace Term

theorem flat_fanout (term : Term) (request : SearchRequest) : (term.fanout request).Flat := by
  refine .intro .should fun clause member => ?_
  rcases List.mem_append.mp member with inFields | inParts
  · rcases List.mem_append.mp inFields with isText | isWildcard
    · obtain ⟨field, _, rfl⟩ := List.mem_map.mp isText
      rfl
    · obtain ⟨field, _, rfl⟩ := List.mem_map.mp isWildcard
      rfl
  · simp only [partClauses] at inParts
    split at inParts
    · cases inParts
    · rw [List.mem_singleton.mp inParts]
      rfl

theorem plain_ofPolarity {polarity : Polarity}
    (isKnown : polarity ∈ [Polarity.must, .should, .mustNot]) :
    (Occur.ofPolarity polarity).Plain := by
  simp only [List.mem_cons, List.not_mem_nil, or_false] at isKnown
  rcases isKnown with rfl | rfl | rfl <;> trivial

theorem keysDistinct_compose {terms : List Term}
    (known : ∀ term ∈ terms, term.polarity ∈ [Polarity.must, .should, .mustNot])
    (request : SearchRequest) : (compose terms request).toJson.keysDistinct = true := by
  refine (Clause.keysDistinct_bool_iff _).mpr ⟨Occur.nodup_map_key ?_ ?_, ?_⟩
  · rw [groups_composeQuery]
    exact Grouping.nodup_keys_foldl_add _ _ terms List.nodup_nil
  · intro occur isOccur
    rw [groups_composeQuery, Grouping.mem_keys_foldl_add] at isOccur
    obtain ⟨term, isTerm, rfl⟩ := isOccur.resolve_left List.not_mem_nil
    exact plain_ofPolarity (known term isTerm)
  · intro group isGroup clause inGroup
    obtain ⟨term, _, _, rfl⟩ := listed_composeQuery_iff.mp ⟨group.2, isGroup, inGroup⟩
    exact (term.flat_fanout request).keysDistinct

end Term

/-!
## The fields to highlight
-/

namespace HighlightSpec

theorem keysDistinct_field (field : HighlightField) : field.toJson.keysDistinct = true := by
  obtain ⟨fragments, order⟩ := field
  cases fragments <;> cases order <;> rfl

theorem keysDistinct_toJson_iff (spec : HighlightSpec) :
    spec.toJson.keysDistinct = true ↔ (spec.fields.map (·.1)).Nodup := by
  have fields_iff : (Json.object (spec.fields.map fun field =>
      (field.1, field.2.toJson))).keysDistinct = true ↔ (spec.fields.map (·.1)).Nodup := by
    rw [keysDistinct_object_iff, Json.keys, List.map_map]
    refine and_iff_left (List.forall_mem_map.mpr fun field _ => keysDistinct_field field.2)
  rw [toJson, keysDistinct_object_iff]
  simp only [List.forall_mem_cons, fields_iff, Json.keysDistinct_ofStrings, List.not_mem_nil,
    false_implies, implies_true, and_true]
  exact and_iff_right (show ["fields", "pre_tags", "post_tags"].Nodup by decide)

theorem names_fields_ofRequest (request : SearchRequest) :
    (ofRequest request).fields.map (·.1) = "content" :: request.partFields := by
  simp [ofRequest, Function.comp_def]

/-- The names of parts stand behind a common prefix, so the content has a name of its own. -/
theorem nodup_fields_ofRequest_iff (request : SearchRequest) :
    ((ofRequest request).fields.map (·.1)).Nodup ↔ request.parts.Nodup := by
  have contentApart : "content" ∉ request.partFields := by
    intro member
    obtain ⟨part, _, isContent⟩ := List.mem_map.mp member
    have characters := congrArg String.toList isContent
    simp [SearchRequest.partsNamespace] at characters
  have prefixed : Function.Injective (SearchRequest.partsNamespace ++ ·) := by
    intro first second same
    have characters := congrArg String.toList same
    simp only [String.toList_append] at characters
    exact String.toList_inj.mp (List.append_cancel_left characters)
  rw [names_fields_ofRequest, List.nodup_cons, and_iff_right contentApart, SearchRequest.partFields,
    List.nodup_map_iff prefixed]

end HighlightSpec

/-!
## The whole query
-/

namespace SearchRequest

theorem keysDistinct_textual {request : SearchRequest} {textual : List Clause}
    (part : TextualPart request textual) {clause : Clause} (member : clause ∈ textual) :
    clause.toJson.keysDistinct = true := by
  cases part with
  | none _ => cases member
  | terms _ found =>
    rw [List.mem_singleton.mp member]
    exact Term.keysDistinct_compose (fun term isTerm => Term.known_of_extract found isTerm) request

theorem keysDistinct_bodyQuery {request : SearchRequest} {textual : List Clause}
    (part : TextualPart request textual) (access : Access) (provider : String) :
    (bodyQuery textual (request.filters access provider).value).toClause.toJson.keysDistinct =
      true := by
  rw [BoolQuery.toClause, Clause.keysDistinct_bool_iff]
  constructor
  · rw [groups_bodyQuery part]
    cases part with
    | none _ => exact List.nodup_singleton _
    | terms _ _ => exact show ["must", "filter"].Nodup by decide
  · intro group isGroup clause inGroup
    rcases (listed_bodyQuery_iff part _ _ _).mp ⟨group.2, isGroup, inGroup⟩ with
      ⟨_, isTextual⟩ | ⟨_, isFilter⟩
    · exact keysDistinct_textual part isTextual
    · exact (flat_of_mem_filters isFilter).keysDistinct

end SearchRequest

theorem CompiledQuery.keysDistinct_toJson_iff (compiled : CompiledQuery) :
    compiled.toJson.keysDistinct = true ↔
      compiled.query.toJson.keysDistinct = true ∧
        (compiled.highlight.fields.map (·.1)).Nodup := by
  have source : (Json.object [("excludes", .ofStrings [excludedField])]).keysDistinct = true := rfl
  have number (word : UInt64) : (Json.ofWord word).keysDistinct = true := rfl
  have string (text : String) : (Json.string text).keysDistinct = true := rfl
  have body_iff : (Json.object [
      ("query", compiled.query.toJson),
      ("highlight", compiled.highlight.toJson),
      ("_source", .object [("excludes", .ofStrings [excludedField])])]).keysDistinct = true ↔
      compiled.query.toJson.keysDistinct = true ∧
        (compiled.highlight.fields.map (·.1)).Nodup := by
    rw [keysDistinct_object_iff]
    simp only [List.forall_mem_cons, source, compiled.highlight.keysDistinct_toJson_iff,
      List.not_mem_nil, false_implies, implies_true, and_true]
    exact and_iff_right (show ["query", "highlight", "_source"].Nodup by decide)
  rw [toJson, keysDistinct_object_iff]
  simp only [List.forall_mem_cons, body_iff, number, string, List.not_mem_nil,
    false_implies, implies_true, and_true, true_and]
  exact and_iff_right (show ["index", "type", "size", "from", "body"].Nodup by decide)

theorem CompiledQuery.at?_highlight_fields (compiled : CompiledQuery) :
    Json.at? ["body", "highlight", "fields"] compiled.toJson =
      some (.object (compiled.highlight.fields.map fun field => (field.1, field.2.toJson))) := by
  rfl

namespace SearchRequest

/-- When a compiled query repeats a key. Read back from its written form, in any layout, its clauses
never have a key twice in one object. The fields to highlight have a key for the content and one
for every part that is named, as often as it is; so there is a key that occurs twice when a part is
named twice, and only then. In that case some nodes are lost on the way to the value that the text
stands for, and otherwise none. -/
theorem compile_keysDistinct_iff (index : IndexName) (request : SearchRequest) (access : Access)
    (provider : String) (compiled : CompiledQuery)
    (compiles : (request.compile index access provider).value = .ok compiled)
    (layout : Json.Layout) :
    ∃ document query fields,
      Json.value? (Json.chars layout compiled.toJson) = some document ∧
      Json.at? ["body", "query"] document = some query ∧
      query.keysDistinct = true ∧
      Json.at? ["body", "highlight", "fields"] document = some (.object fields) ∧
      Json.keys fields = "content" :: request.partFields ∧
      (document.keysDistinct = true ↔ request.parts.Nodup) ∧
      (document.canonical.nodes.Perm document.nodes ↔ request.parts.Nodup) := by
  obtain ⟨name, textual, _, part, isCompiled⟩ :=
    (value_compile_eq_ok_iff index request access provider compiled).mp compiles
  have queryDistinct : compiled.query.toJson.keysDistinct = true := by
    rw [isCompiled]
    exact keysDistinct_bodyQuery part access provider
  have whole_iff : compiled.toJson.keysDistinct = true ↔ request.parts.Nodup := by
    rw [compiled.keysDistinct_toJson_iff, and_iff_right queryDistinct, isCompiled]
    exact HighlightSpec.nodup_fields_ofRequest_iff request
  have names : Json.keys (compiled.highlight.fields.map fun field => (field.1, field.2.toJson)) =
      "content" :: request.partFields := by
    rw [isCompiled, ← HighlightSpec.names_fields_ofRequest, Json.keys, List.map_map]
    rfl
  exact ⟨compiled.toJson, compiled.query.toJson, _, compiled.value?_compiled layout,
    compiled.at?_body_query, queryDistinct, compiled.at?_highlight_fields, names, whole_iff,
    (Json.nodes_canonical_perm_iff _).trans whole_iff⟩

/-- Text is looked for in two parts, and a tag is asked for as well. -/
theorem compile_keysDistinct_iff_two_parts :
    let request : SearchRequest :=
      { search := "+a", parts := ["notes", "content"], metaTags := ["b"] }
    ∃ compiled, (request.compile (.known "docs") { viewer := "ann" } "files").value =
        .ok compiled ∧
      ∃ document query fields,
        Json.value? (Json.chars .compact compiled.toJson) = some document ∧
        Json.at? ["body", "query"] document = some query ∧
        query.keysDistinct = true ∧
        Json.at? ["body", "highlight", "fields"] document = some (.object fields) ∧
        Json.keys fields = "content" :: request.partFields ∧
        (document.keysDistinct = true ↔ request.parts.Nodup) ∧
        (document.canonical.nodes.Perm document.nodes ↔ request.parts.Nodup) := by
  intro request
  have isWritten : request.search = Term.writeSearch [⟨"a", .must, .fuzzy⟩] := by decide +kernel
  have found : (Term.extract request.search).value = .ok [⟨"a", .must, .fuzzy⟩] := by
    rw [isWritten]
    exact Term.extract_writeSearch (by decide) (by decide +kernel)
  have compiles := (value_compile_eq_ok_iff (.known "docs") request { viewer := "ann" } "files"
    _).mpr ⟨"docs", _, rfl, .terms (by decide) found, rfl⟩
  exact ⟨_, compiles, compile_keysDistinct_iff _ request _ "files" _ compiles .compact⟩

/-- A part that is named twice is written twice, and the value of the text has it once. -/
theorem compile_repeats_part :
    let request : SearchRequest := { parts := ["notes", "notes"] }
    ∃ compiled, (request.compile (.known "docs") { viewer := "ann" } "files").value =
        .ok compiled ∧
      ∃ document,
        Json.value? (Json.chars .compact compiled.toJson) = some document ∧
        document.keysDistinct = false ∧
        ¬ document.canonical.nodes.Perm document.nodes := by
  intro request
  have compiles := (value_compile_eq_ok_iff (.known "docs") request { viewer := "ann" } "files"
    _).mpr ⟨"docs", _, rfl, .none rfl, rfl⟩
  refine ⟨_, compiles, _, CompiledQuery.value?_compiled .compact _, ?_⟩
  rw [Json.nodes_canonical_perm_iff, Bool.not_eq_true, and_self]
  decide +kernel

end SearchRequest

end SearchQuery
