import SearchQuery.Json.Reader
import SearchQuery.Json.Record
import SearchQuery.Request.Basic

/-!
# Requests as JSON

Requests, accesses and filter groups are written as objects with all their fields, and read from
objects or arrays in which fields may be missing. They are read alike from JSON values and from JSON
texts taken apart; the readers get the way to read a text as an argument.
-/

set_option autoImplicit false

namespace SearchQuery

variable {Text : Type}

def Json.ofStrings (texts : List String) : Json String :=
  .array (texts.map .string)

def Json.ofWord (word : UInt64) : Json String :=
  .number (Numeral.ofNat word.toNat)

namespace FilterEntry

def toJson (entry : FilterEntry) : Json String :=
  .object [("field", .string entry.field), ("pattern", .string entry.pattern)]

def jsonFields (text? : Text → Option String) : List (Json.Field Text FilterEntry) := [
  ⟨"field", fun value =>
    (Json.string? text? value).map fun field entry => { entry with field }⟩,
  ⟨"pattern", fun value =>
    (Json.string? text? value).map fun pattern entry => { entry with pattern }⟩]

/-- Reads an entry, which has to have both its fields. -/
def ofJson? (text? : Text → Option String) : Json Text → Option FilterEntry :=
  Json.record? text? (jsonFields text?) ⟨"", ""⟩

end FilterEntry

namespace FilterGroup

def listToJson (groups : List FilterGroup) : Json String :=
  .array (groups.map fun group => .array (group.map FilterEntry.toJson))

def listOfJson? (text? : Text → Option String) : Json Text → Option (List FilterGroup) :=
  Json.list? (Json.list? (FilterEntry.ofJson? text?))

end FilterGroup

namespace SearchRequest

def toJson (request : SearchRequest) : Json String :=
  .object [
    ("search", .string request.search),
    ("page", .ofWord request.page),
    ("size", .ofWord request.size),
    ("fields", .ofStrings request.fields),
    ("limit_fields", .ofStrings request.limitFields),
    ("wildcard_fields", .ofStrings request.wildcardFields),
    ("parts", .ofStrings request.parts),
    ("meta_tags", .ofStrings request.metaTags),
    ("sub_tags", .ofStrings request.subTags),
    ("wildcard_filters", FilterGroup.listToJson request.wildcardFilters),
    ("regex_filters", FilterGroup.listToJson request.regexFilters)]

/-- The fields of a request, in the order of declaration. -/
def jsonFields (text? : Text → Option String) : List (Json.Field Text SearchRequest) :=
  let string? := Json.string? text?
  let strings? := Json.list? string?
  let groups? := FilterGroup.listOfJson? text?
  [⟨"search", fun value => (string? value).map fun search request => { request with search }⟩,
    ⟨"page", fun value => (Json.word? value).map fun page request => { request with page }⟩,
    ⟨"size", fun value => (Json.word? value).map fun size request => { request with size }⟩,
    ⟨"fields", fun value => (strings? value).map fun fields request => { request with fields }⟩,
    ⟨"limit_fields", fun value =>
      (strings? value).map fun limitFields request => { request with limitFields }⟩,
    ⟨"wildcard_fields", fun value =>
      (strings? value).map fun wildcardFields request => { request with wildcardFields }⟩,
    ⟨"parts", fun value => (strings? value).map fun parts request => { request with parts }⟩,
    ⟨"meta_tags", fun value =>
      (strings? value).map fun metaTags request => { request with metaTags }⟩,
    ⟨"sub_tags", fun value =>
      (strings? value).map fun subTags request => { request with subTags }⟩,
    ⟨"wildcard_filters", fun value =>
      (groups? value).map fun wildcardFilters request => { request with wildcardFilters }⟩,
    ⟨"regex_filters", fun value =>
      (groups? value).map fun regexFilters request => { request with regexFilters }⟩]

def ofJson? (text? : Text → Option String) : Json Text → Option SearchRequest :=
  Json.recordOr? text? (jsonFields text?) {}

def ofValue? : Json String → Option SearchRequest :=
  ofJson? some

def ofText? (text : String) : Option SearchRequest :=
  (Json.read? text.toList).bind (ofJson? Json.sourceText?)

end SearchRequest

namespace Access

def toJson (access : Access) : Json String :=
  .object [
    ("viewer", .string access.viewer),
    ("groups", .ofStrings access.groups),
    ("circles", .ofStrings access.circles)]

def jsonFields (text? : Text → Option String) : List (Json.Field Text Access) :=
  let string? := Json.string? text?
  let strings? := Json.list? string?
  [⟨"viewer", fun value => (string? value).map fun viewer access => { access with viewer }⟩,
    ⟨"groups", fun value => (strings? value).map fun groups access => { access with groups }⟩,
    ⟨"circles", fun value => (strings? value).map fun circles access => { access with circles }⟩]

def ofJson? (text? : Text → Option String) : Json Text → Option Access :=
  Json.recordOr? text? (jsonFields text?) {}

def ofValue? : Json String → Option Access :=
  ofJson? some

def ofText? (text : String) : Option Access :=
  (Json.read? text.toList).bind (ofJson? Json.sourceText?)

end Access

namespace FilterGroup

def listOfValue? : Json String → Option (List FilterGroup) :=
  listOfJson? some

def listOfText? (text : String) : Option (List FilterGroup) :=
  (Json.read? text.toList).bind (listOfJson? Json.sourceText?)

end FilterGroup

end SearchQuery
