import SearchQuery.Proofs.Query.Compile
import SearchQuery.Proofs.Query.Document
import SearchQuery.Proofs.Query.Filters
import SearchQuery.Proofs.Term.Written

/-!
# Queries see no more than their viewer

Whatever is searched for, the query that is sent lets no document through that is not the provider's
or that the viewer may not see. This is stated about the written query: it is read back, from any
layout, as a document whose filters begin with the one for the provider and the one for the access,
and the clause that the document holds means what was asked for.
-/

set_option autoImplicit false

namespace SearchQuery

/-- A field has exactly a value, as JSON. -/
def termJson (field value : String) : Json String :=
  .object [("term", .object [(field, .string value)])]

def providerJson (provider : String) : Json String :=
  .object [("bool", .object [("must", .array [termJson "provider" provider])])]

def accessJson (access : Access) : Json String :=
  .object [("bool", .object [("should", .array
    ([termJson "owner" access.viewer, termJson "users" access.viewer, termJson "users" "__all"] ++
      access.groups.map (termJson "groups") ++ access.circles.map (termJson "circles")))])]

def textualJson : List Clause → List (String × Json String)
  | [] => []
  | clauses => [("must", .array (clauses.map Clause.toJson))]

namespace SearchRequest

theorem toJson_providerFilter (provider : String) :
    (Clause.providerFilter provider).toJson = providerJson provider :=
  rfl

theorem toJson_accessFilter (access : Access) : access.filter.toJson = accessJson access := by
  have items : Clause.clauseItems access.clauses =
      [termJson "owner" access.viewer, termJson "users" access.viewer, termJson "users" "__all"] ++
        access.groups.map (termJson "groups") ++ access.circles.map (termJson "circles") := by
    rw [Clause.clauseItems_eq_map, Access.clauses]
    simp only [List.map_append, List.map_map]
    rfl
  rw [accessJson, ← items]
  rfl

theorem groupMembers_textualGroups {request : SearchRequest} {textual : List Clause}
    (part : TextualPart request textual) :
    Clause.groupMembers (textualGroups textual) = textualJson textual := by
  cases part with
  | none _ => rfl
  | terms _ _ => rfl

theorem toJson_bodyQuery {request : SearchRequest} {textual : List Clause}
    (part : TextualPart request textual) (filters : List Clause) :
    (bodyQuery textual filters).toClause.toJson =
      .object [("bool", .object
        (textualJson textual ++ [("filter", .array (filters.map Clause.toJson))]))] := by
  rw [BoolQuery.toClause, groups_bodyQuery part, Clause.toJson, Clause.groupMembers_eq_map,
    List.map_append, ← Clause.groupMembers_eq_map, groupMembers_textualGroups part]
  rfl

/-- What a compiled query lets through. Its written form, in any layout, is read back as a document
whose query is one node with the textual clause, if text is looked for, and with filters that begin
with those for the provider and the access. A document fits the query when it fits the textual
clause, is one of the provider's, may be seen by the viewer, and passes whatever else is asked
for. -/
theorem compile_confined (index : IndexName) (request : SearchRequest) (access : Access)
    (provider : String) (compiled : CompiledQuery)
    (compiles : (request.compile index access provider).value = .ok compiled) :
    ∃ textual others, TextualPart request textual ∧
      (∀ layout, (Json.value? (Json.chars layout compiled.toJson)).bind
        (Json.at? ["body", "query"]) = some compiled.query.toJson) ∧
      compiled.query.toJson = .object [("bool", .object (textualJson textual ++
        [("filter", .array (providerJson provider :: accessJson access :: others))]))] ∧
      ∀ leaf : Clause → Bool, compiled.query.holds leaf = true ↔
        (∀ clause ∈ textual, clause.holds leaf = true) ∧
        leaf (.term "provider" provider) = true ∧ access.Admits leaf ∧ request.Passes leaf := by
  obtain ⟨name, textual, _, part, isCompiled⟩ :=
    (value_compile_eq_ok_iff index request access provider compiled).mp compiles
  have isQuery : compiled.query =
      (bodyQuery textual (request.filters access provider).value).toClause := by
    rw [isCompiled]
  obtain ⟨others, isFilters⟩ : ∃ others, (request.filters access provider).value =
      .providerFilter provider :: access.filter :: others :=
    ⟨_, value_filters request access provider⟩
  refine ⟨textual, others.map Clause.toJson, part, fun layout => ?_, ?_, fun leaf => ?_⟩
  · rw [compiled.value?_compiled layout]
    exact compiled.at?_body_query
  · rw [isQuery, toJson_bodyQuery part, isFilters, List.map_cons, List.map_cons,
      toJson_providerFilter, toJson_accessFilter]
  · rw [isQuery, holds_bodyQuery_iff part, holds_filters_iff]

/-- A viewer whose name would end a string early, if quotes were not escaped. -/
theorem compile_confined_quote_in_viewer :
    let request : SearchRequest := { search := "+a", metaTags := ["b"] }
    let access : Access := { viewer := "\"]", groups := ["c"], circles := ["d"] }
    ∃ compiled, (request.compile (.known "docs") access "files").value = .ok compiled ∧
      ∃ textual others, TextualPart request textual ∧
        (∀ layout, (Json.value? (Json.chars layout compiled.toJson)).bind
          (Json.at? ["body", "query"]) = some compiled.query.toJson) ∧
        compiled.query.toJson = .object [("bool", .object (textualJson textual ++
          [("filter", .array (providerJson "files" :: accessJson access :: others))]))] ∧
        ∀ leaf : Clause → Bool, compiled.query.holds leaf = true ↔
          (∀ clause ∈ textual, clause.holds leaf = true) ∧
          leaf (.term "provider" "files") = true ∧ access.Admits leaf ∧ request.Passes leaf := by
  intro request access
  have isWritten : request.search = Term.writeSearch [⟨"a", .must, .fuzzy⟩] := by decide +kernel
  have found : (Term.extract request.search).value = .ok [⟨"a", .must, .fuzzy⟩] := by
    rw [isWritten]
    exact Term.extract_writeSearch (by decide) (by decide +kernel)
  have compiles := (value_compile_eq_ok_iff (.known "docs") request access "files" _).mpr
    ⟨"docs", _, rfl, .terms (by decide) found, rfl⟩
  exact ⟨_, compiles, compile_confined _ request access "files" _ compiles⟩

end SearchRequest

end SearchQuery
