import SearchQuery.Proofs.Query.Compile
import SearchQuery.Proofs.Term.BlankToken

/-!
# When compilation fails

There are two errors, and what causes them is known exactly (`compile_outcome`): there is no index,
whatever is searched for, or there is one and text is looked for in which every token is blank. The
filters, the allow-list and the access have no part in it.
-/

set_option autoImplicit false

namespace SearchQuery

open SearchQuery.Token (tokenize)
open SearchQuery.Term (BlankToken)

/-- The required clauses of a query, if it has a group of them. -/
def CompiledQuery.required? (compiled : CompiledQuery) : Option (List Clause) :=
  compiled.query.toBool?.bind (·.group? .must)

namespace SearchRequest

/-- A query has required clauses exactly when it has a textual part. -/
theorem required?_compiled {request : SearchRequest} {access : Access} {provider : String}
    {index : IndexName} {compiled : CompiledQuery}
    (compiles : (request.compile index access provider).value = .ok compiled) :
    (compiled.required? = none ∧ request.search = ":null") ∨
      ∃ terms, compiled.required? = some [Term.compose terms request] ∧
        request.search ≠ ":null" ∧ (Term.extract request.search).value = .ok terms := by
  obtain ⟨name, textual, _, part, isCompiled⟩ :=
    (value_compile_eq_ok_iff index request access provider compiled).mp compiles
  rw [CompiledQuery.required?, isCompiled]
  cases part with
  | none isSentinel => exact .inl ⟨rfl, isSentinel⟩
  | @terms terms text found => exact .inr ⟨terms, rfl, text, found⟩

theorem value_textualClauses_eq_error_iff (request : SearchRequest) (error : CompileError) :
    request.textualClauses.value = .error error ↔
      request.search ≠ ":null" ∧
        (∀ token ∈ tokenize request.search, BlankToken token.toList) ∧
        error = .noTerms ⟨request.search⟩ := by
  unfold textualClauses
  split
  · rename_i hasText
    rw [Reported.value_bind]
    cases found : (Term.extract request.search).value with
    | error noTerms =>
      obtain ⟨blank, rfl⟩ := (Term.value_extract_eq_error_iff _ _).mp found
      constructor
      · intro fails
        cases fails
        exact ⟨request.hasText_iff.mp hasText, blank, rfl⟩
      · intro parts
        rw [parts.2.2]
        rfl
    | ok terms =>
      constructor
      · intro fails
        cases fails
      · intro parts
        have none := (Term.value_extract_eq_error_iff _ _).mpr ⟨parts.2.1, rfl⟩
        rw [found] at none
        cases none
  · rename_i noText
    constructor
    · intro fails
      cases fails
    · intro parts
      exact absurd (request.hasText_iff.mpr parts.1) noText

theorem value_compile_eq_error_iff (index : IndexName) (request : SearchRequest) (access : Access)
    (provider : String) (error : CompileError) :
    (request.compile index access provider).value = .error error ↔
      (index = .missing ∧ error = .noIndex) ∨
      ((∃ name, index = .known name) ∧ request.textualClauses.value = .error error) := by
  cases index with
  | missing =>
    constructor
    · intro fails
      cases fails
      exact .inl ⟨rfl, rfl⟩
    · intro cause
      rcases cause with ⟨_, rfl⟩ | ⟨⟨_, isKnown⟩, _⟩
      · rfl
      · cases isKnown
  | known name =>
    simp only [compile, Reported.value_bind, reduceCtorEq, false_and, false_or,
      IndexName.known.injEq, exists_eq', true_and]
    cases request.textualClauses.value with
    | error cause =>
      constructor
      · intro fails
        cases fails
        rfl
      · intro fails
        cases fails
        rfl
    | ok textual =>
      constructor
      · intro fails
        cases fails
      · intro fails
        cases fails

/-- What a request compiles to, in four cases of which each request is in exactly one. -/
theorem compile_outcome (index : IndexName) (request : SearchRequest) (access : Access)
    (provider : String) :
    let outcome := (request.compile index access provider).value
    (outcome = .error .noIndex ↔ index = .missing) ∧
    (∀ error, outcome = .error (.noTerms error) ↔
      (∃ name, index = .known name) ∧ request.search ≠ ":null" ∧
        (∀ token ∈ tokenize request.search, BlankToken token.toList) ∧
        error = ⟨request.search⟩) ∧
    ((∃ compiled, outcome = .ok compiled ∧ compiled.required? = none) ↔
      (∃ name, index = .known name) ∧ request.search = ":null") ∧
    ((∃ compiled clause, outcome = .ok compiled ∧ compiled.required? = some [clause]) ↔
      (∃ name, index = .known name) ∧ request.search ≠ ":null" ∧
        ∃ token ∈ tokenize request.search, ¬ BlankToken token.toList) := by
  intro outcome
  have fails := value_compile_eq_error_iff index request access provider
  have succeeds := value_compile_eq_ok_iff index request access provider
  refine ⟨?_, fun error => ?_, ?_, ?_⟩
  · rw [fails, value_textualClauses_eq_error_iff]
    simp
  · rw [fails, value_textualClauses_eq_error_iff]
    simp
  · constructor
    · intro found
      obtain ⟨compiled, compiles, noneRequired⟩ := found
      obtain ⟨name, _, isKnown, _⟩ := (succeeds compiled).mp compiles
      rcases required?_compiled compiles with ⟨_, isSentinel⟩ | ⟨terms, isRequired, _⟩
      · exact ⟨⟨name, isKnown⟩, isSentinel⟩
      · rw [noneRequired] at isRequired
        cases isRequired
    · intro parts
      obtain ⟨⟨name, isKnown⟩, isSentinel⟩ := parts
      exact ⟨_, (succeeds _).mpr ⟨name, [], isKnown, .none isSentinel, rfl⟩, rfl⟩
  · constructor
    · intro found
      obtain ⟨compiled, clause, compiles, oneRequired⟩ := found
      obtain ⟨name, _, isKnown, _⟩ := (succeeds compiled).mp compiles
      rcases required?_compiled compiles with ⟨noneRequired, _⟩ | ⟨terms, _, text, found⟩
      · rw [oneRequired] at noneRequired
        cases noneRequired
      · exact ⟨⟨name, isKnown⟩, text, (Term.exists_extract_iff _).mp ⟨terms, found⟩⟩
    · intro parts
      obtain ⟨⟨name, isKnown⟩, text, someToken⟩ := parts
      obtain ⟨terms, found⟩ := (Term.exists_extract_iff _).mpr someToken
      exact ⟨_, _, (succeeds _).mpr ⟨name, _, isKnown, .terms text found, rfl⟩, rfl⟩

end SearchRequest

end SearchQuery
