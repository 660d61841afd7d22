import SearchQuery.Request.Encoding

/-!
# Highlighted fragments

What the backend is asked to highlight in the documents it finds: the best fragments of the content,
and every part of a document in which text is looked for, all without markup.
-/

set_option autoImplicit false

namespace SearchQuery

/-- The options of a highlighted field. What is not set is left to the backend. -/
structure HighlightField where
  fragments : Option Nat := none
  order : Option String := none
  deriving DecidableEq, Repr

namespace HighlightField

def toJson (field : HighlightField) : Json String :=
  .object
    ((match field.fragments with
      | none => []
      | some count => [("number_of_fragments", .number (Numeral.ofNat count))]) ++
    (match field.order with
      | none => []
      | some order => [("order", .string order)]))

end HighlightField

structure HighlightSpec where
  fields : List (String × HighlightField)
  preTags : List String
  postTags : List String
  deriving DecidableEq, Repr

namespace HighlightSpec

def contentFragments : Nat := 5

def ofRequest (request : SearchRequest) : HighlightSpec where
  fields := ("content", { fragments := some contentFragments, order := some "score" }) ::
    request.partFields.map fun field => (field, {})
  preTags := [""]
  postTags := [""]

/-- The specification as JSON. A field that is listed twice gives two members. -/
def toJson (spec : HighlightSpec) : Json String :=
  .object [
    ("fields", .object (spec.fields.map fun field => (field.1, field.2.toJson))),
    ("pre_tags", .ofStrings spec.preTags),
    ("post_tags", .ofStrings spec.postTags)]

end HighlightSpec

end SearchQuery
