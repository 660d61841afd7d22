import SearchQuery.IndexName
import SearchQuery.Query.Encoding
import SearchQuery.Query.Fanout
import SearchQuery.Query.Filter
import SearchQuery.Query.Highlight
import SearchQuery.Term.Extract

/-!
# Compiled queries

A request becomes a query against an index of the backend: its textual clause, unless no text is
looked for, and all its filters. Two things can go wrong, and the first of them is the one that is
reported: there is no index, or the search text has no terms.
-/

set_option autoImplicit false

namespace SearchQuery

inductive CompileError where
  | noIndex
  /-- Text is looked for, but the search text has no terms. -/
  | noTerms (error : NoTerms)
  deriving DecidableEq, Repr

namespace CompileError

def message : CompileError → String
  | noIndex => IndexName.missingMessage
  | noTerms error => error.message

end CompileError

structure CompiledQuery where
  index : String
  size : UInt64
  /-- The number of results on the pages before. -/
  offset : UInt64
  query : Clause
  highlight : HighlightSpec
  deriving Repr

def documentType : String := "standard"

namespace CompiledQuery

/-- The field that is left out of the documents that the backend returns. -/
def excludedField : String := "content"

def toJson (compiled : CompiledQuery) : Json String :=
  .object [
    ("index", .string compiled.index),
    ("type", .string documentType),
    ("size", .ofWord compiled.size),
    ("from", .ofWord compiled.offset),
    ("body", .object [
      ("query", compiled.query.toJson),
      ("highlight", compiled.highlight.toJson),
      ("_source", .object [("excludes", .ofStrings [excludedField])])])]

end CompiledQuery

structure IdLookup where
  index : String
  /-- The provider and the id of the document within it, with a colon between. -/
  id : String
  deriving DecidableEq, Repr

namespace IdLookup

def toJson (lookup : IdLookup) : Json String :=
  .object [
    ("index", .string lookup.index),
    ("type", .string documentType),
    ("id", .string lookup.id)]

end IdLookup

namespace SearchRequest

def note (message : String) (fields : List (String × FieldValue)) : Event where
  level := .debug
  target := "ftq_mapping::compiler"
  message := message
  fields := fields

/-- The textual part of a request's query: no clause if no text is looked for, else the clause for
the terms of the search text. -/
def textualClauses (request : SearchRequest) : Reported (Except CompileError (List Clause)) :=
  if request.hasText then do
    match ← Term.extract request.search with
    | .error error => pure (.error (.noTerms error))
    | .ok terms => do
      Reported.report (note "composing textual clause" [("terms", .number terms.length)])
      pure (.ok [Term.compose terms request])
  else pure (.ok [])

/-- The node of a query: the textual clauses, if there are any, are required, and so are, without a
score, the filters. -/
def bodyQuery (textual filters : List Clause) : BoolQuery :=
  (textual.foldl (fun query clause => query.push .must clause) BoolQuery.empty).withGroup
    .filter filters

/-- Compiles a request of a viewer for the documents of a provider. -/
def compile (index : IndexName) (request : SearchRequest) (access : Access) (provider : String) :
    Reported (Except CompileError CompiledQuery) :=
  match index with
  | .missing => pure (.error .noIndex)
  | .known index => do
    match ← request.textualClauses with
    | .error error => pure (.error error)
    | .ok textual => do
      let filters ← request.filters access provider
      Reported.report (note "compiled search query"
        [("provider", .text provider), ("filters", .number filters.length)])
      pure (.ok {
        index
        size := request.size
        offset := request.offset
        query := (bodyQuery textual filters).toClause
        highlight := .ofRequest request })

end SearchRequest

namespace IdLookup

def compile (index : IndexName) (provider document : String) :
    Reported (Except CompileError IdLookup) :=
  match index with
  | .missing => pure (.error .noIndex)
  | .known index => do
    Reported.report (SearchRequest.note "compiled id lookup"
      [("provider", .text provider), ("document", .text document)])
    pure (.ok { index, id := provider ++ ":" ++ document })

end IdLookup

end SearchQuery
