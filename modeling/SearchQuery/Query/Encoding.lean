import SearchQuery.Json.Basic
import SearchQuery.Query.Clause

/-!
# Clauses as JSON

Every clause is an object with one member, whose key tells the kind of the clause. The groups of a
node are the members of an object, in the order of the groups. Two groups with the same key give two
members with that key.
-/

set_option autoImplicit false

namespace SearchQuery.Clause

open SearchQuery (Json)

def entry (key : String) (value : Json String) : Json String :=
  .object [(key, value)]

/-- A member for a bound, if there is one. -/
def boundMember (key : String) : Option String → List (String × Json String)
  | none => []
  | some bound => [(key, .string bound)]

mutual

def toJson : Clause → Json String
  | term field value => entry "term" (entry field (.string value))
  | matching mode field text => entry mode.key (entry field (.string text))
  | wildcard field pattern => entry "wildcard" (entry field (.string pattern))
  | regexp field pattern => entry "regexp" (entry field (.string pattern))
  | queryString fields query =>
    entry "query_string"
      (.object [("fields", .array (fields.map .string)), ("query", .string query)])
  | range field atLeast atMost =>
    entry "range"
      (entry field (.object (boundMember "gte" atLeast ++ boundMember "lte" atMost)))
  | bool groups => entry "bool" (.object (groupMembers groups))

def groupMembers : List (Occur × List Clause) → List (String × Json String)
  | [] => []
  | (occur, clauses) :: rest => (occur.key, .array (clauseItems clauses)) :: groupMembers rest

def clauseItems : List Clause → List (Json String)
  | [] => []
  | clause :: rest => toJson clause :: clauseItems rest

end

def listToJson (clauses : List Clause) : Json String :=
  .array (clauseItems clauses)

theorem clauseItems_eq_map (clauses : List Clause) : clauseItems clauses = clauses.map toJson := by
  induction clauses with
  | nil => rfl
  | cons clause rest ih => simp [clauseItems, ih]

theorem groupMembers_eq_map (groups : List (Occur × List Clause)) :
    groupMembers groups =
      groups.map fun group => (group.1.key, Json.array (group.2.map toJson)) := by
  induction groups with
  | nil => rfl
  | cons group rest ih => simp [groupMembers, clauseItems_eq_map, ih]

end SearchQuery.Clause

namespace SearchQuery.BoolQuery

/-- A node as JSON, without the key that would make it a clause. -/
def toJson (query : BoolQuery) : Json String :=
  .object (Clause.groupMembers query.groups)

end SearchQuery.BoolQuery
