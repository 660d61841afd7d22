import SearchQuery.Proofs.Query.Compile
import SearchQuery.Proofs.Query.Filters

/-!
# Queries of filters alone

When no text is looked for, the query holds of what passes all its filters. Two kinds of filters ask
for one of several alternatives even where there are none, and hold of nothing then: that of the
meta tags, and that of a group of patterns with wildcards. The others do not stand in the way: an
empty list of sub-tags requires nothing, a group without regular expressions has no filter for them,
and a payload that cannot be used has no clauses. So it is known which queries can match at all
(`filter_query_satisfiable_iff`), and a request without meta tags gives none of these.
-/

set_option autoImplicit false

namespace SearchQuery

/-- Something matches a clause: it holds for some truth values of the conditions in it. -/
def Clause.Satisfiable (clause : Clause) : Prop :=
  ∃ leaf : Clause → Bool, clause.holds leaf = true

namespace SearchRequest

theorem exists_compiled_of_sentinel (name : String) {request : SearchRequest} (access : Access)
    (provider : String) (noText : request.search = ":null") :
    ∃ compiled, (request.compile (.known name) access provider).value = .ok compiled ∧
      ∀ leaf : Clause → Bool, compiled.query.holds leaf = true ↔
        leaf (.term "provider" provider) = true ∧ access.Admits leaf ∧ request.Passes leaf := by
  have part : TextualPart request [] := .none noText
  have compiles := (value_compile_eq_ok_iff (.known name) request access provider _).mpr
    ⟨name, [], rfl, part, rfl⟩
  refine ⟨_, compiles, fun leaf => ?_⟩
  have holds_iff := holds_bodyQuery_iff part (request.filters access provider).value leaf
  rw [holds_filters_iff] at holds_iff
  exact holds_iff.trans (and_iff_right fun clause member => absurd member List.not_mem_nil)

/-- Of the lists that a request asks an alternative from, none is empty. -/
structure HasAlternatives (request : SearchRequest) : Prop where
  metaTags : request.metaTags ≠ []
  wildcards : ∀ group ∈ request.wildcardFilters, group ≠ []

theorem Passes.hasAlternatives {request : SearchRequest} {leaf : Clause → Bool}
    (passes : request.Passes leaf) : request.HasAlternatives where
  metaTags := by
    obtain ⟨tag, member, _⟩ := passes.metaTags
    exact List.ne_nil_of_mem member
  wildcards group isGroup := by
    obtain ⟨entry, member, _⟩ := passes.wildcards group isGroup
    exact List.ne_nil_of_mem member

/-- Nothing is excluded by a filter, so what can pass does if all conditions are true. -/
theorem HasAlternatives.passes {request : SearchRequest} (alternatives : request.HasAlternatives) :
    request.Passes fun _ => true where
  metaTags := by
    obtain ⟨tag, member⟩ := List.exists_mem_of_ne_nil _ alternatives.metaTags
    exact ⟨tag, member, rfl⟩
  subTags _ _ := rfl
  wildcards group isGroup := by
    obtain ⟨entry, member⟩ := List.exists_mem_of_ne_nil _ (alternatives.wildcards group isGroup)
    exact ⟨entry, member, rfl⟩
  payloads _ _ _ _ _ _ _ := rfl
  expressions _ _ found := by
    obtain ⟨entry, member, isPlain⟩ := found
    exact ⟨entry, member, isPlain, rfl⟩

/-- When a query of filters alone can match. There is such a query, whatever the filters are, and
something matches it exactly when there is a meta tag and no group of patterns with wildcards is
empty. -/
theorem filter_query_satisfiable_iff (name : String) (request : SearchRequest) (access : Access)
    (provider : String) (noText : request.search = ":null") :
    ∃ compiled, (request.compile (.known name) access provider).value = .ok compiled ∧
      (compiled.query.Satisfiable ↔
        request.metaTags ≠ [] ∧ ∀ group ∈ request.wildcardFilters, group ≠ []) := by
  obtain ⟨compiled, compiles, holds_iff⟩ := exists_compiled_of_sentinel name access provider noText
  refine ⟨compiled, compiles, ?_, ?_⟩
  · rintro ⟨leaf, holds⟩
    obtain ⟨_, _, passes⟩ := (holds_iff leaf).mp holds
    exact ⟨passes.hasAlternatives.metaTags, passes.hasAlternatives.wildcards⟩
  · rintro ⟨metaTags, wildcards⟩
    have alternatives : request.HasAlternatives := ⟨metaTags, wildcards⟩
    have admits : access.Admits fun _ => true := .inl rfl
    exact ⟨fun _ => true, (holds_iff _).mpr ⟨rfl, admits, alternatives.passes⟩⟩

/-- There are a tag and a pattern, no sub-tags, a group without regular expressions, and a payload
that says nothing. -/
theorem filter_query_satisfiable_empty_lists :
    let request : SearchRequest := {
      metaTags := ["work"]
      wildcardFilters := [[⟨"name", "*.pdf"⟩]]
      regexFilters := [[], [⟨"info_msg", "broken"⟩]] }
    request.search = ":null" ∧
    ∃ compiled, (request.compile (.known "docs") { viewer := "ann" } "files").value =
        .ok compiled ∧
      (compiled.query.Satisfiable ↔
        request.metaTags ≠ [] ∧ ∀ group ∈ request.wildcardFilters, group ≠ []) ∧
      compiled.query.Satisfiable := by
  intro request
  obtain ⟨compiled, compiles, satisfiable_iff⟩ :=
    filter_query_satisfiable_iff "docs" request { viewer := "ann" } "files" rfl
  exact ⟨rfl, compiled, compiles, satisfiable_iff, satisfiable_iff.mpr (by decide)⟩

/-- Nothing matches the query of a request that asks for nothing, which has no groups of patterns.
-/
theorem bare_query_unsatisfiable :
    let request : SearchRequest := {}
    request.search = ":null" ∧ (∀ group ∈ request.wildcardFilters, group ≠ []) ∧
    ∃ compiled, (request.compile (.known "docs") { viewer := "ann" } "files").value =
        .ok compiled ∧ ¬ compiled.query.Satisfiable := by
  obtain ⟨compiled, compiles, holds_iff⟩ :=
    @exists_compiled_of_sentinel "docs" {} { viewer := "ann" } "files" rfl
  refine ⟨rfl, fun group member => absurd member List.not_mem_nil, compiled, compiles, ?_⟩
  rintro ⟨leaf, holds⟩
  obtain ⟨_, _, passes⟩ := (holds_iff leaf).mp holds
  exact passes.hasAlternatives.metaTags rfl

end SearchRequest

end SearchQuery
