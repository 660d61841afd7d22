import SearchQuery.Query.Clause
import SearchQuery.Request.Basic

/-!
# The textual part of a query

Every term is looked for in all fields that the request names and its allow-list admits: in the
content, the title and the extra fields as text, in the wildcard fields as a part of a word, and in
the parts of the document by one clause for all of them. The terms are then grouped by the part they
play in the search, the groups in the order of first mention.
-/

set_option autoImplicit false

namespace SearchQuery

namespace Term

/-- The fields in which every term is looked for. -/
def defaultFields : List String := ["content", "title"]

/-- The clauses for the fields in which a term is looked for as text. -/
def textClauses (term : Term) (request : SearchRequest) : List Clause :=
  ((defaultFields ++ request.fields).filter request.allows).map fun field =>
    .matching term.mode field term.word

/-- The clauses for the fields in which a term is looked for as a part of a word. -/
def wildcardClauses (term : Term) (request : SearchRequest) : List Clause :=
  (request.wildcardFields.filter request.allows).map fun field =>
    .wildcard field ("*" ++ term.word ++ "*")

/-- The clause for the parts of a document, if any part is allowed. -/
def partClauses (term : Term) (request : SearchRequest) : List Clause :=
  let fields := request.partFields.filter request.allows
  if fields.isEmpty then [] else [.queryString fields term.word]

/-- The clause that looks for a term in all allowed fields. -/
def fanout (term : Term) (request : SearchRequest) : Clause :=
  .ofGroup .should
    (term.textClauses request ++ term.wildcardClauses request ++ term.partClauses request)

/-- The node that groups the clauses of some terms by the part they play. -/
def composeQuery (terms : List Term) (request : SearchRequest) : BoolQuery :=
  terms.foldl (fun query term => query.push (Occur.ofPolarity term.polarity) (term.fanout request))
    BoolQuery.empty

def compose (terms : List Term) (request : SearchRequest) : Clause :=
  (composeQuery terms request).toClause

end Term

end SearchQuery
