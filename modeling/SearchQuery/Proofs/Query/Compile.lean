import SearchQuery.Proofs.Query.Meaning
import SearchQuery.Query.Compile

/-!
# What is compiled

A request compiles exactly when there is an index and, if text is looked for, the search text has
terms; what it compiles to is fixed by these (`value_compile_eq_ok_iff`). The query is one node with
the filters in a group and, in front of it, at most one textual clause in another.
-/

set_option autoImplicit false

namespace SearchQuery.SearchRequest

open SearchQuery.Grouping (Listed)

/-- The textual clauses of a query for a request: none if no text is looked for, else the clause for
the terms of the search text. -/
inductive TextualPart (request : SearchRequest) : List Clause → Prop where
  | none : request.search = ":null" → TextualPart request []
  | terms {terms : List Term} : request.search ≠ ":null" →
      (Term.extract request.search).value = .ok terms →
      TextualPart request [Term.compose terms request]

theorem hasText_iff (request : SearchRequest) :
    request.hasText = true ↔ request.search ≠ ":null" := by
  simp [hasText, noSearch]

theorem value_textualClauses_eq_ok_iff (request : SearchRequest) (textual : List Clause) :
    request.textualClauses.value = .ok textual ↔ TextualPart request textual := by
  unfold textualClauses
  split
  · rename_i hasText
    have text := request.hasText_iff.mp hasText
    rw [Reported.value_bind]
    cases found : (Term.extract request.search).value with
    | error error =>
      constructor
      · intro compiled
        cases compiled
      · intro part
        cases part with
        | none isSentinel => exact absurd isSentinel text
        | terms _ extracted =>
          rw [found] at extracted
          cases extracted
    | ok terms =>
      constructor
      · intro compiled
        cases compiled
        exact .terms text found
      · intro part
        cases part with
        | none isSentinel => exact absurd isSentinel text
        | terms _ extracted =>
          rw [found] at extracted
          cases extracted
          rfl
  · rename_i noText
    have isSentinel : request.search = ":null" :=
      Decidable.of_not_not fun text => noText (request.hasText_iff.mpr text)
    constructor
    · intro compiled
      cases compiled
      exact .none isSentinel
    · intro part
      cases part with
      | none _ => rfl
      | terms text _ => exact absurd isSentinel text

theorem value_compile_eq_ok_iff (index : IndexName) (request : SearchRequest) (access : Access)
    (provider : String) (compiled : CompiledQuery) :
    (request.compile index access provider).value = .ok compiled ↔
      ∃ name textual, index = .known name ∧ TextualPart request textual ∧
        compiled = {
          index := name
          size := request.size
          offset := request.offset
          query := (bodyQuery textual (request.filters access provider).value).toClause
          highlight := .ofRequest request } := by
  cases index with
  | missing =>
    constructor
    · intro compiles
      cases compiles
    · intro parts
      obtain ⟨_, _, isKnown, _⟩ := parts
      cases isKnown
  | known name =>
    simp only [compile, Reported.value_bind]
    cases found : request.textualClauses.value with
    | error error =>
      constructor
      · intro compiles
        cases compiles
      · intro parts
        obtain ⟨_, textual, _, part, _⟩ := parts
        rw [(value_textualClauses_eq_ok_iff request textual).mpr part] at found
        cases found
    | ok textual =>
      constructor
      · intro compiles
        cases compiles
        exact ⟨name, textual, rfl, (value_textualClauses_eq_ok_iff request textual).mp found, rfl⟩
      · intro parts
        obtain ⟨other, others, isKnown, part, rfl⟩ := parts
        cases isKnown
        rw [(value_textualClauses_eq_ok_iff request others).mpr part] at found
        cases found
        rfl

/-!
## The node of a query
-/

def textualGroups : List Clause → List (Occur × List Clause)
  | [] => []
  | clauses => [(.must, clauses)]

theorem groups_bodyQuery {request : SearchRequest} {textual : List Clause}
    (part : TextualPart request textual) (filters : List Clause) :
    (bodyQuery textual filters).groups = textualGroups textual ++ [(.filter, filters)] := by
  cases part with
  | none _ => rfl
  | terms _ _ => rfl

theorem listed_bodyQuery_iff {request : SearchRequest} {textual : List Clause}
    (part : TextualPart request textual) (filters : List Clause) (occur : Occur)
    (clause : Clause) :
    Listed occur clause (bodyQuery textual filters).groups ↔
      (occur = .must ∧ clause ∈ textual) ∨ (occur = .filter ∧ clause ∈ filters) := by
  rw [groups_bodyQuery part]
  cases part with
  | none _ => simp [textualGroups, Grouping.listed_cons, Grouping.not_listed_nil]
  | terms _ _ => simp [textualGroups, Grouping.listed_cons, Grouping.not_listed_nil]

theorem holds_bodyQuery_iff {request : SearchRequest} {textual : List Clause}
    (part : TextualPart request textual) (filters : List Clause) (leaf : Clause → Bool) :
    (bodyQuery textual filters).toClause.holds leaf = true ↔
      (∀ clause ∈ textual, clause.holds leaf = true) ∧
        ∀ clause ∈ filters, clause.holds leaf = true := by
  have hasFilters : Occur.filter ∈ (bodyQuery textual filters).groups.map (·.1) := by
    simp [groups_bodyQuery part]
  rw [BoolQuery.toClause, Clause.holds_bool_iff]
  simp only [listed_bodyQuery_iff part, hasFilters, not_true_eq_false, false_implies,
    implies_true, and_true, true_and, reduceCtorEq, false_and, or_false, false_or]
  constructor
  · intro all
    exact ⟨fun clause member => all clause (.inl member),
      fun clause member => all clause (.inr member)⟩
  · intro all clause member
    rcases member with isTextual | isFilter
    · exact all.1 clause isTextual
    · exact all.2 clause isFilter

end SearchQuery.SearchRequest
