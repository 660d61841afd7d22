import SearchQuery.Proofs.Json.Record
import SearchQuery.Request.Encoding

/-!
# Requests in all the ways to write them

A request and an access survive being written (`requests_read_back`): as a value, as a text in any
layout, and as the array of their fields; and so does every variant of these, with the members in
another order, with members that are no fields, with entries of filters as arrays, and without
fields that have their default values. The variants are those of the records' fields, so what is
proved here is that the fields of a reader and the ways to write them belong together
(`FilterEntry.reads`, `SearchRequest.reads`, `Access.reads`).
-/

set_option autoImplicit false

namespace SearchQuery

open SearchQuery.Json (FieldForm IsList IsString IsWord Reads Source Spells Takes WrittenRecord
  isWellSpelled sourceText?)

variable {Text : Type}

/-! ## Entries of filters -/

namespace FilterEntry

variable (text? : Text → Option String) (entry : FilterEntry)

def forms : List (FieldForm Text) := [
  ⟨"field", IsString text? entry.field, False⟩,
  ⟨"pattern", IsString text? entry.pattern, False⟩]

def IsWritten (value : Json Text) : Prop :=
  WrittenRecord text? (entry.forms text?) value

/-- The entry as far as the named fields have been read. -/
def partly (seen : List String) : FilterEntry where
  field := Json.heldIf seen "field" entry.field ""
  pattern := Json.heldIf seen "pattern" entry.pattern ""

theorem reads : Reads (jsonFields text?) (entry.forms text?) entry.partly entry where
  takes := by
    refine .cons ?_ (.cons ?_ .nil)
    all_goals exact .of_map (fun _ => Json.string?_of_isString) (by simp [partly, Json.heldIf])
  nodup := show ["field", "pattern"].Nodup by decide
  complete seen complete := by
    simp only [forms, List.forall_mem_cons] at complete
    obtain ⟨field, pattern, -⟩ := complete
    rw [partly, Json.heldIf_complete (field.imp_left False.elim),
      Json.heldIf_complete (pattern.imp_left False.elim)]

variable {text?} {entry}

theorem ofJson?_of_isWritten {value : Json Text} (written : entry.IsWritten text? value) :
    ofJson? text? value = some entry :=
  Json.record?_of_written (entry.reads text?) (by simp [forms]) written

theorem isWritten_toJson : entry.IsWritten some entry.toJson :=
  Json.AllInOrder.writtenRecord
    ⟨_, rfl, .cons ⟨rfl, _, rfl, rfl⟩ (.cons ⟨rfl, _, rfl, rfl⟩ .nil)⟩

theorem IsWritten.spelled {value : Json String} (written : entry.IsWritten some value) :
    entry.IsWritten sourceText? value.spelled := by
  refine WrittenRecord.spelled ?_ written
  exact .cons ⟨rfl, fun _ => IsString.spelled, id⟩ (.cons ⟨rfl, fun _ => IsString.spelled, id⟩ .nil)

end FilterEntry

/-! ## Groups of filters -/

namespace FilterGroup

variable (text? : Text → Option String)

def ListIsWritten (groups : List FilterGroup) (value : Json Text) : Prop :=
  IsList (IsList (FilterEntry.IsWritten text?)) groups value

variable {text?} {groups : List FilterGroup}

theorem listOfJson?_of_isWritten {value : Json Text} (written : ListIsWritten text? groups value) :
    listOfJson? text? value = some groups := by
  refine Json.list?_of_isList (fun group tree groupWritten => ?_) written
  refine Json.list?_of_isList (fun entry tree entryWritten => ?_) groupWritten
  exact FilterEntry.ofJson?_of_isWritten entryWritten

theorem listIsWritten_toJson : ListIsWritten some groups (listToJson groups) := by
  refine ⟨_, rfl, List.forall₂_map_right_iff.mpr (List.forall₂_same.mpr fun group _ => ?_)⟩
  refine ⟨_, rfl, List.forall₂_map_right_iff.mpr (List.forall₂_same.mpr fun entry _ => ?_)⟩
  exact entry.isWritten_toJson

theorem ListIsWritten.spelled {value : Json String} (written : ListIsWritten some groups value) :
    ListIsWritten sourceText? groups value.spelled := by
  refine IsList.spelled (fun group tree groupWritten => ?_) written
  refine IsList.spelled (fun entry tree entryWritten => ?_) groupWritten
  exact entryWritten.spelled

theorem isWellSpelled_listToJson : isWellSpelled (listToJson groups) = true := by
  refine (Json.allNumbers_array _ _).mpr (List.forall_mem_map.mpr fun group _ => ?_)
  exact (Json.allNumbers_array _ _).mpr (List.forall_mem_map.mpr fun _ _ => rfl)

end FilterGroup

namespace Json

variable {text? : Text → Option String} {texts : List String}

theorem strings?_of_isWritten {value : Json Text} (written : IsList (IsString text?) texts value) :
    list? (string? text?) value = some texts := by
  refine list?_of_isList (fun text tree isString => ?_) written
  exact string?_of_isString isString

theorem isList_ofStrings : IsList (IsString some) texts (ofStrings texts) :=
  ⟨_, rfl, List.forall₂_map_right_iff.mpr (List.forall₂_same.mpr fun _ _ => ⟨_, rfl, rfl⟩)⟩

theorem IsList.spelled_strings {value : Json String}
    (written : IsList (IsString some) texts value) :
    IsList (IsString sourceText?) texts value.spelled := by
  refine IsList.spelled (fun text tree isString => ?_) written
  exact isString.spelled

theorem isWellSpelled_ofWord (word : UInt64) : isWellSpelled (ofWord word) = true :=
  decide_eq_true (Numeral.wellSpelled_ofNat word.toNat)

end Json

/-! ## Requests -/

namespace SearchRequest

variable (text? : Text → Option String) (request : SearchRequest)

/-- The ways to write the fields of a request. A field may be left out that has its default. -/
def forms : List (FieldForm Text) := [
  ⟨"search", IsString text? request.search, request.search = noSearch⟩,
  ⟨"page", IsWord request.page, request.page = 1⟩,
  ⟨"size", IsWord request.size, request.size = 20⟩,
  ⟨"fields", IsList (IsString text?) request.fields, request.fields = []⟩,
  ⟨"limit_fields", IsList (IsString text?) request.limitFields, request.limitFields = []⟩,
  ⟨"wildcard_fields", IsList (IsString text?) request.wildcardFields,
    request.wildcardFields = []⟩,
  ⟨"parts", IsList (IsString text?) request.parts, request.parts = []⟩,
  ⟨"meta_tags", IsList (IsString text?) request.metaTags, request.metaTags = []⟩,
  ⟨"sub_tags", IsList (IsString text?) request.subTags, request.subTags = []⟩,
  ⟨"wildcard_filters", FilterGroup.ListIsWritten text? request.wildcardFilters,
    request.wildcardFilters = []⟩,
  ⟨"regex_filters", FilterGroup.ListIsWritten text? request.regexFilters,
    request.regexFilters = []⟩]

/-- The request as far as the named fields have been read. -/
def partly (seen : List String) : SearchRequest where
  search := Json.heldIf seen "search" request.search noSearch
  page := Json.heldIf seen "page" request.page 1
  size := Json.heldIf seen "size" request.size 20
  fields := Json.heldIf seen "fields" request.fields []
  limitFields := Json.heldIf seen "limit_fields" request.limitFields []
  wildcardFields := Json.heldIf seen "wildcard_fields" request.wildcardFields []
  parts := Json.heldIf seen "parts" request.parts []
  metaTags := Json.heldIf seen "meta_tags" request.metaTags []
  subTags := Json.heldIf seen "sub_tags" request.subTags []
  wildcardFilters := Json.heldIf seen "wildcard_filters" request.wildcardFilters []
  regexFilters := Json.heldIf seen "regex_filters" request.regexFilters []

theorem takes :
    List.Forall₂ (Takes request.partly) (jsonFields text?) (request.forms text?) := by
  refine .cons ?search (.cons ?page (.cons ?size (.cons ?fields (.cons ?limitFields
    (.cons ?wildcardFields (.cons ?parts (.cons ?metaTags (.cons ?subTags
    (.cons ?wildcardFilters (.cons ?regexFilters .nil))))))))))
  case search =>
    exact .of_map (fun _ => Json.string?_of_isString) (by simp [partly, Json.heldIf])
  case page | size => exact .of_map (fun _ => Json.word?_of_isWord) (by simp [partly, Json.heldIf])
  case wildcardFilters | regexFilters =>
    exact .of_map (fun _ => FilterGroup.listOfJson?_of_isWritten) (by simp [partly, Json.heldIf])
  all_goals exact .of_map (fun _ => Json.strings?_of_isWritten) (by simp [partly, Json.heldIf])

theorem partly_complete (seen : List String)
    (complete : ∀ form ∈ request.forms text?, form.MayMiss ∨ form.name ∈ seen) :
    request.partly seen = request := by
  simp only [forms, List.forall_mem_cons] at complete
  obtain ⟨search, page, size, fields, limitFields, wildcardFields, parts, metaTags, subTags,
    wildcardFilters, regexFilters, -⟩ := complete
  rw [partly, Json.heldIf_complete search, Json.heldIf_complete page, Json.heldIf_complete size,
    Json.heldIf_complete fields, Json.heldIf_complete limitFields,
    Json.heldIf_complete wildcardFields, Json.heldIf_complete parts, Json.heldIf_complete metaTags,
    Json.heldIf_complete subTags, Json.heldIf_complete wildcardFilters,
    Json.heldIf_complete regexFilters]

theorem reads : Reads (jsonFields text?) (request.forms text?) request.partly request where
  takes := request.takes text?
  nodup := show ["search", "page", "size", "fields", "limit_fields", "wildcard_fields", "parts",
    "meta_tags", "sub_tags", "wildcard_filters", "regex_filters"].Nodup by decide
  complete := request.partly_complete text?

variable {text?} {request}

theorem ofJson?_of_written {value : Json Text}
    (written : WrittenRecord text? (request.forms text?) value) :
    ofJson? text? value = some request :=
  Json.recordOr?_of_written (request.reads text?) written

theorem spells :
    List.Forall₂ Spells (request.forms some) (request.forms sourceText?) := by
  refine .cons ?search (.cons ?page (.cons ?size (.cons ?fields (.cons ?limitFields
    (.cons ?wildcardFields (.cons ?parts (.cons ?metaTags (.cons ?subTags
    (.cons ?wildcardFilters (.cons ?regexFilters .nil))))))))))
  case search => exact ⟨rfl, fun _ => IsString.spelled, id⟩
  case page | size => exact ⟨rfl, fun _ => IsWord.spelled, id⟩
  case wildcardFilters | regexFilters =>
    exact ⟨rfl, fun _ => FilterGroup.ListIsWritten.spelled, id⟩
  all_goals exact ⟨rfl, fun _ => Json.IsList.spelled_strings, id⟩

theorem allInOrder_toJson : Json.AllInOrder some (request.forms some) request.toJson := by
  refine ⟨_, rfl, .cons ?search (.cons ?page (.cons ?size (.cons ?fields (.cons ?limitFields
    (.cons ?wildcardFields (.cons ?parts (.cons ?metaTags (.cons ?subTags
    (.cons ?wildcardFilters (.cons ?regexFilters .nil))))))))))⟩
  case search => exact ⟨rfl, _, rfl, rfl⟩
  case page | size => exact ⟨rfl, rfl⟩
  case wildcardFilters | regexFilters => exact ⟨rfl, FilterGroup.listIsWritten_toJson⟩
  all_goals exact ⟨rfl, Json.isList_ofStrings⟩

theorem isWellSpelled_toJson : isWellSpelled request.toJson = true := by
  refine (Json.allNumbers_object _ _).mpr ?_
  simp only [List.forall_mem_cons]
  have strings := Json.allNumbers_strings fun numeral => decide numeral.WellSpelled
  exact ⟨rfl, Json.isWellSpelled_ofWord _, Json.isWellSpelled_ofWord _, strings _, strings _,
    strings _, strings _, strings _, strings _, FilterGroup.isWellSpelled_listToJson,
    FilterGroup.isWellSpelled_listToJson, fun member isMember => absurd isMember List.not_mem_nil⟩

theorem readBack (request : SearchRequest) :
    Json.ReadBack ofValue? ofText? (request.forms some) (request.forms sourceText?)
      request.toJson request := by
  refine .of_reads (fun value => ofJson?_of_written) (fun text tree isTree written => ?_)
    request.spells request.allInOrder_toJson request.isWellSpelled_toJson
  rw [ofText?, isTree]
  exact ofJson?_of_written written

end SearchRequest

/-! ## Accesses -/

namespace Access

variable (text? : Text → Option String) (access : Access)

/-- The ways to write the fields of an access. A field may be left out that has its default. -/
def forms : List (FieldForm Text) := [
  ⟨"viewer", IsString text? access.viewer, access.viewer = ""⟩,
  ⟨"groups", IsList (IsString text?) access.groups, access.groups = []⟩,
  ⟨"circles", IsList (IsString text?) access.circles, access.circles = []⟩]

/-- The access as far as the named fields have been read. -/
def partly (seen : List String) : Access where
  viewer := Json.heldIf seen "viewer" access.viewer ""
  groups := Json.heldIf seen "groups" access.groups []
  circles := Json.heldIf seen "circles" access.circles []

theorem reads : Reads (jsonFields text?) (access.forms text?) access.partly access where
  takes := by
    refine .cons ?viewer (.cons ?groups (.cons ?circles .nil))
    case viewer => exact .of_map (fun _ => Json.string?_of_isString) (by simp [partly, Json.heldIf])
    all_goals exact .of_map (fun _ => Json.strings?_of_isWritten) (by simp [partly, Json.heldIf])
  nodup := show ["viewer", "groups", "circles"].Nodup by decide
  complete seen complete := by
    simp only [forms, List.forall_mem_cons] at complete
    obtain ⟨viewer, groups, circles, -⟩ := complete
    rw [partly, Json.heldIf_complete viewer, Json.heldIf_complete groups,
      Json.heldIf_complete circles]

variable {text?} {access}

theorem ofJson?_of_written {value : Json Text}
    (written : WrittenRecord text? (access.forms text?) value) :
    ofJson? text? value = some access :=
  Json.recordOr?_of_written (access.reads text?) written

theorem spells : List.Forall₂ Spells (access.forms some) (access.forms sourceText?) := by
  refine .cons ?viewer (.cons ?groups (.cons ?circles .nil))
  case viewer => exact ⟨rfl, fun _ => IsString.spelled, id⟩
  all_goals exact ⟨rfl, fun _ => Json.IsList.spelled_strings, id⟩

theorem allInOrder_toJson : Json.AllInOrder some (access.forms some) access.toJson := by
  refine ⟨_, rfl, .cons ?viewer (.cons ?groups (.cons ?circles .nil))⟩
  case viewer => exact ⟨rfl, _, rfl, rfl⟩
  all_goals exact ⟨rfl, Json.isList_ofStrings⟩

theorem isWellSpelled_toJson : isWellSpelled access.toJson = true := by
  refine (Json.allNumbers_object _ _).mpr fun member isMember => ?_
  simp only [List.mem_cons, List.not_mem_nil, or_false] at isMember
  rcases isMember with rfl | rfl | rfl
  · rfl
  · exact Json.allNumbers_strings _ access.groups
  · exact Json.allNumbers_strings _ access.circles

theorem readBack (access : Access) :
    Json.ReadBack ofValue? ofText? (access.forms some) (access.forms sourceText?)
      access.toJson access := by
  refine .of_reads (fun value => ofJson?_of_written) (fun text tree isTree written => ?_)
    access.spells access.allInOrder_toJson access.isWellSpelled_toJson
  rw [ofText?, isTree]
  exact ofJson?_of_written written

end Access

/-- Requests and accesses survive being written. They are read back from their values and texts,
from the arrays of their fields, and from everything else that they may be written as: with members
in another order, with members that are no fields, with entries of filters as arrays, and without
fields that have their defaults. -/
theorem requests_read_back :
    (∀ request : SearchRequest, Json.ReadBack SearchRequest.ofValue? SearchRequest.ofText?
      (request.forms some) (request.forms sourceText?) request.toJson request) ∧
    ∀ access : Access, Json.ReadBack Access.ofValue? Access.ofText? (access.forms some)
      (access.forms sourceText?) access.toJson access :=
  ⟨SearchRequest.readBack, Access.readBack⟩

/-- The members of a request in reverse order, behind one that is no field of it. The entry of the
filter is an array, and all fields with defaults are missing. -/
def rearranged : Json String :=
  .object (List.reverse [
    ("search", .string "\\ \n"),
    ("size", .ofWord 18446744073709551615),
    ("regex_filters", .array [.array [.array [.string "owner", .string "a\"b"]]]),
    ("added", .array [.null])])

theorem requests_read_back_rearranged :
    let request : SearchRequest := {
      search := "\\ \n"
      size := 18446744073709551615
      regexFilters := [[⟨"owner", "a\"b"⟩]] }
    SearchRequest.ofValue? rearranged = some request ∧
      (∀ layout, SearchRequest.ofText? (String.ofList (Json.chars layout rearranged)) =
        some request) ∧
      Access.ofValue? (.array [.string "ann"]) = some { viewer := "ann" } := by
  intro request
  have entry : FilterEntry.IsWritten some ⟨"owner", "a\"b"⟩
      (.array [.string "owner", .string "a\"b"]) :=
    .array (.written ⟨_, rfl, rfl⟩ (.written ⟨_, rfl, rfl⟩ (.missing (by simp))))
  have groups : FilterGroup.ListIsWritten some [[⟨"owner", "a\"b"⟩]]
      (.array [.array [.array [.string "owner", .string "a\"b"]]]) :=
    ⟨_, rfl, .cons ⟨_, rfl, .cons entry .nil⟩ .nil⟩
  have written : WrittenRecord some (request.forms some) rearranged := by
    refine @WrittenRecord.object _ some _ _ [("search", _), ("size", _), ("regex_filters", _)]
      [("added", _)] ?inOrder ?notFields (List.reverse_perm _)
    case inOrder =>
      exact .written rfl ⟨_, rfl, rfl⟩ (.missing rfl (.written rfl rfl (.missing rfl (.missing rfl
        (.missing rfl (.missing rfl (.missing rfl (.missing rfl (.missing rfl
        (.written rfl groups .nil))))))))))
    case notFields =>
      refine List.forall_mem_cons.mpr ⟨⟨"added", rfl, ?_⟩, by simp⟩
      exact show "added" ∉ ["search", "page", "size", "fields", "limit_fields", "wildcard_fields",
        "parts", "meta_tags", "sub_tags", "wildcard_filters", "regex_filters"] by decide
  obtain ⟨requests, accesses⟩ := requests_read_back
  refine ⟨(requests request).fromWritten _ written, fun layout => ?_, ?_⟩
  · exact (requests request).fromWrittenText layout _ (by decide +kernel) written
  · refine (accesses { viewer := "ann" }).fromWritten _ (.array ?_)
    exact .written ⟨_, rfl, rfl⟩ (.missing (by simp))

end SearchQuery
