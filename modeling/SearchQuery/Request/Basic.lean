/-!
# Search requests

What a search asks for, and who asks. A search text that is the sentinel `noSearch` means that no
text is looked for and only the filters apply. The allow-list bounds the fields in which text is
looked for; an empty list bounds nothing.
-/

set_option autoImplicit false

namespace SearchQuery

/-- An entry of a group of filters: a pattern for a field. -/
structure FilterEntry where
  field : String
  /-- A pattern with wildcards, a regular expression, or a legacy payload. -/
  pattern : String
  deriving DecidableEq, Repr

namespace FilterEntry

/-- The field name that marks a legacy payload. -/
def legacyField : String := "info_msg"

def isLegacy (entry : FilterEntry) : Bool :=
  entry.field == legacyField

end FilterEntry

/-- Entries of which any has to fit. -/
abbrev FilterGroup := List FilterEntry

structure SearchRequest where
  /-- The search text, or the sentinel that stands for none. -/
  search : String := ":null"
  /-- The number of the page of results, counted from one. -/
  page : UInt64 := 1
  size : UInt64 := 20
  /-- Fields in which text is looked for, besides the content and the title. -/
  fields : List String := []
  /-- The only fields in which text may be looked for, or no bound at all. -/
  limitFields : List String := []
  /-- Fields in which words are looked for as parts of other words. -/
  wildcardFields : List String := []
  /-- Names of the parts of a document in which text is looked for. -/
  parts : List String := []
  /-- Tags of which a document has to have any. -/
  metaTags : List String := []
  /-- Tags all of which a document has to have. -/
  subTags : List String := []
  wildcardFilters : List FilterGroup := []
  regexFilters : List FilterGroup := []
  deriving DecidableEq, Repr

namespace SearchRequest

def noSearch : String := ":null"

/-- What the names of the parts of a document are put behind to get field names. -/
def partsNamespace : String := "parts."

def hasText (request : SearchRequest) : Bool :=
  request.search != noSearch

/-- A product of two words, or the greatest word if it is too large. -/
def saturatingProduct (a b : UInt64) : UInt64 :=
  UInt64.ofNat (min (a.toNat * b.toNat) (UInt64.size - 1))

/-- How many results the pages before the requested one hold. Page zero counts as page one. -/
def offset (request : SearchRequest) : UInt64 :=
  saturatingProduct (UInt64.ofNat (request.page.toNat - 1)) request.size

def partFields (request : SearchRequest) : List String :=
  request.parts.map (partsNamespace ++ ·)

def allows (request : SearchRequest) (field : String) : Bool :=
  request.limitFields.isEmpty || request.limitFields.contains field

theorem toNat_offset (request : SearchRequest) :
    request.offset.toNat =
      min ((request.page.toNat - 1) * request.size.toNat) (UInt64.size - 1) := by
  have size : UInt64.size = 18446744073709551616 := rfl
  have page := request.page.toNat_lt_size
  have bound : min ((request.page.toNat - 1) * request.size.toNat) (UInt64.size - 1) <
      UInt64.size := by
    omega
  have pagesBefore : (UInt64.ofNat (request.page.toNat - 1)).toNat = request.page.toNat - 1 :=
    UInt64.toNat_ofNat_of_lt (by omega)
  rw [offset, saturatingProduct, pagesBefore]
  exact UInt64.toNat_ofNat_of_lt bound

end SearchRequest

structure Access where
  viewer : String := ""
  groups : List String := []
  circles : List String := []
  deriving DecidableEq, Repr

end SearchQuery
