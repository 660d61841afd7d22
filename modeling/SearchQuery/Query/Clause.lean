import SearchQuery.Query.Grouping
import SearchQuery.Term.Basic

/-!
# Clauses of a query

The part of the backend's query language that compiled queries use. A clause is a condition on one
field, a text looked for in several fields, or a node that groups other clauses by the way they
occur: required, optional, excluded, or required without a score.
-/

set_option autoImplicit false

namespace SearchQuery

inductive Occur where
  | must
  | should
  | mustNot
  /-- All have to match, without scoring. -/
  | filter
  /-- Any other group, by its key. Its key may be that of one of the groups above; the two are
  different groups all the same. -/
  | other (key : String)
  deriving DecidableEq, Repr

namespace Occur

def key : Occur → String
  | must => "must"
  | should => "should"
  | mustNot => "must_not"
  | filter => "filter"
  | other key => key

def ofPolarity : Polarity → Occur
  | .must => must
  | .should => should
  | .mustNot => mustNot
  | .other key => if key = "filter" then filter else other key

theorem key_ofPolarity (polarity : Polarity) : (ofPolarity polarity).key = polarity.key := by
  cases polarity with
  | other key =>
    simp only [ofPolarity, Polarity.key]
    split <;> simp_all [Occur.key]
  | _ => rfl

end Occur

inductive Clause where
  | term (field value : String)
  /-- A text is found in a field. -/
  | matching (mode : MatchMode) (field text : String)
  | wildcard (field pattern : String)
  | regexp (field pattern : String)
  | queryString (fields : List String) (query : String)
  /-- A field lies between two bounds, which belong to the range. -/
  | range (field : String) (atLeast atMost : Option String)
  | bool (groups : List (Occur × List Clause))
  deriving Repr

namespace Clause

mutual

/-- The fields that a clause refers to, in order and with repetitions. -/
def referencedFields : Clause → List String
  | term field _ | matching _ field _ | wildcard field _ | regexp field _ | range field _ _ =>
    [field]
  | queryString fields _ => fields
  | bool groups => fieldsOfGroups groups

def fieldsOfGroups : List (Occur × List Clause) → List String
  | [] => []
  | (_, clauses) :: rest => fieldsOfClauses clauses ++ fieldsOfGroups rest

def fieldsOfClauses : List Clause → List String
  | [] => []
  | clause :: rest => referencedFields clause ++ fieldsOfClauses rest

end

end Clause

/-- A node of a query: clauses grouped by the way they occur. -/
structure BoolQuery where
  groups : List (Occur × List Clause) := []
  deriving Repr

namespace BoolQuery

def empty : BoolQuery := {}

/-- Adds clauses to a group. The group comes into being even if there is no clause. -/
def withGroup (query : BoolQuery) (occur : Occur) (clauses : List Clause) : BoolQuery :=
  ⟨Grouping.add occur clauses query.groups⟩

def push (query : BoolQuery) (occur : Occur) (clause : Clause) : BoolQuery :=
  query.withGroup occur [clause]

def group? (query : BoolQuery) (occur : Occur) : Option (List Clause) :=
  Grouping.items? occur query.groups

def isEmpty (query : BoolQuery) : Bool :=
  query.groups.isEmpty

def toClause (query : BoolQuery) : Clause :=
  .bool query.groups

end BoolQuery

namespace Clause

def ofGroup (occur : Occur) (clauses : List Clause) : Clause :=
  (BoolQuery.empty.withGroup occur clauses).toClause

def toBool? : Clause → Option BoolQuery
  | bool groups => some ⟨groups⟩
  | _ => none

def rangeFrom (field bound : String) : Clause :=
  range field (some bound) none

def rangeTo (field bound : String) : Clause :=
  range field none (some bound)

end Clause

end SearchQuery
