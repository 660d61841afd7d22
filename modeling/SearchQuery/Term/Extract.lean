import SearchQuery.Event
import SearchQuery.Term.Classify

/-!
# The terms of a search

A search text is cut into tokens, and every token that has something to search for becomes a term.
The others are passed over with a note. A search without any term is an error.
-/

set_option autoImplicit false

namespace SearchQuery

/-- A search text none of whose tokens has anything to search for. -/
structure NoTerms where
  query : String
  deriving DecidableEq, Repr

namespace NoTerms

def message (error : NoTerms) : String :=
  "no valid search terms in " ++ Text.quoted error.query

def suggestion : String :=
  "Markers (+, -, ?) and quotes need a word after them, e.g. '+rust' or '\"big world\"'"

end NoTerms

namespace Term

def skipped (error : EmptyToken) : Event where
  level := .trace
  target := "ftq_query"
  message := "skipping token"
  fields := [("error", .plain error.message)]

/-- The term of a token, if it has one; a token that has none is noted. -/
def ofToken? (token : String) : Reported (Option Term) :=
  match ofToken token with
  | .ok term => pure (some term)
  | .error error => do
    Reported.report (skipped error)
    pure none

def ofTokens (tokens : List String) : Reported (List Term) := do
  let terms ← Reported.forEach ofToken? tokens
  pure (terms.filterMap id)

def extract (search : String) : Reported (Except NoTerms (List Term)) := do
  let terms ← ofTokens (Token.tokenize search)
  pure (if terms = [] then .error ⟨search⟩ else .ok terms)

theorem value_ofTokens (tokens : List String) :
    (ofTokens tokens).value = tokens.filterMap fun token => (ofToken token).toOption := by
  have each (token : String) : (ofToken? token).value = (ofToken token).toOption := by
    unfold ofToken?
    split <;> simp_all [Except.toOption]
  simp [ofTokens, Reported.value_forEach, List.filterMap_map, each]

end Term

end SearchQuery
