import SearchQuery.Proofs.Json.RoundTrip
import SearchQuery.Query.Compile

/-!
# Compiled queries as documents

A compiled query is read back from its written form, in any layout, since the only numbers in it are
the digits of natural numbers (`value?_compiled`). The clause it was written for is found by its path
(`at?_body_query`).
-/

set_option autoImplicit false

namespace SearchQuery.Json

/-- The value at the end of a path of keys. -/
def at? : List String → Json String → Option (Json String)
  | [], value => some value
  | key :: path, object members => (member? key members).bind (at? path)
  | _ :: _, _ => none

end SearchQuery.Json

namespace SearchQuery.Clause

variable (test : Numeral → Bool)

theorem allNumbers_entry (key : String) {value : Json String}
    (passes : value.allNumbers test = true) : (entry key value).allNumbers test = true := by
  refine (Json.allNumbers_object test _).mpr fun member isEntry => ?_
  rw [List.mem_singleton.mp isEntry]
  exact passes

theorem allNumbers_field (key field text : String) :
    (entry key (entry field (.string text))).allNumbers test = true :=
  allNumbers_entry test key (allNumbers_entry test field rfl)

theorem allNumbers_boundMember {key : String} {bound : Option String}
    {member : String × Json String} (isBound : member ∈ boundMember key bound) :
    member.2.allNumbers test = true := by
  cases bound with
  | none => cases isBound
  | some text =>
    rw [List.mem_singleton.mp isBound]
    rfl

mutual

/-- There are no numbers in a clause. -/
theorem allNumbers_toJson (clause : Clause) : clause.toJson.allNumbers test = true := by
  cases clause with
  | term field value => exact allNumbers_field test "term" field value
  | matching mode field text => exact allNumbers_field test mode.key field text
  | wildcard field pattern => exact allNumbers_field test "wildcard" field pattern
  | regexp field pattern => exact allNumbers_field test "regexp" field pattern
  | queryString fields query =>
    refine allNumbers_entry test _
      ((Json.allNumbers_object test _).mpr fun member isMember => ?_)
    simp only [List.mem_cons, List.not_mem_nil, or_false] at isMember
    rcases isMember with rfl | rfl
    · exact Json.allNumbers_strings test fields
    · rfl
  | range field atLeast atMost =>
    refine allNumbers_entry test _ (allNumbers_entry test _
      ((Json.allNumbers_object test _).mpr fun member isMember => ?_))
    rcases List.mem_append.mp isMember with isLower | isUpper
    · exact allNumbers_boundMember test isLower
    · exact allNumbers_boundMember test isUpper
  | bool groups => exact allNumbers_entry test _ (allNumbers_groupMembers groups)

theorem allNumbers_groupMembers (groups : List (Occur × List Clause)) :
    (Json.object (groupMembers groups)).allNumbers test = true := by
  cases groups with
  | nil => rfl
  | cons group rest =>
    obtain ⟨occur, clauses⟩ := group
    exact Bool.and_eq_true_iff.mpr
      ⟨allNumbers_clauseItems clauses, allNumbers_groupMembers rest⟩

theorem allNumbers_clauseItems (clauses : List Clause) :
    (Json.array (clauseItems clauses)).allNumbers test = true := by
  cases clauses with
  | nil => rfl
  | cons clause rest =>
    exact Bool.and_eq_true_iff.mpr ⟨allNumbers_toJson clause, allNumbers_clauseItems rest⟩

end

theorem isWellSpelled_toJson (clause : Clause) : clause.toJson.isWellSpelled = true :=
  allNumbers_toJson _ clause

end SearchQuery.Clause

namespace SearchQuery.HighlightSpec

variable {test : Numeral → Bool}

theorem allNumbers_field {field : HighlightField}
    (passes : ∀ count ∈ field.fragments, test (Numeral.ofNat count) = true) :
    field.toJson.allNumbers test = true := by
  obtain ⟨fragments, order⟩ := field
  refine (Json.allNumbers_object test _).mpr fun member isMember => ?_
  rcases List.mem_append.mp isMember with isFragments | isOrder
  · cases fragments with
    | none => cases isFragments
    | some count =>
      rw [List.mem_singleton.mp isFragments]
      exact passes count rfl
  · cases order with
    | none => cases isOrder
    | some name =>
      rw [List.mem_singleton.mp isOrder]
      rfl

theorem allNumbers_toJson {spec : HighlightSpec}
    (passes : ∀ field ∈ spec.fields, ∀ count ∈ field.2.fragments,
      test (Numeral.ofNat count) = true) : spec.toJson.allNumbers test = true := by
  refine (Json.allNumbers_object test _).mpr fun member isMember => ?_
  simp only [List.mem_cons, List.not_mem_nil, or_false] at isMember
  rcases isMember with rfl | rfl | rfl
  · refine (Json.allNumbers_object test _).mpr fun member isField => ?_
    obtain ⟨field, inSpec, rfl⟩ := List.mem_map.mp isField
    exact allNumbers_field (passes field inSpec)
  · exact Json.allNumbers_strings test spec.preTags
  · exact Json.allNumbers_strings test spec.postTags

end SearchQuery.HighlightSpec

namespace SearchQuery.CompiledQuery

/-- The numbers of a compiled query are its page window and the numbers of fragments. -/
theorem allNumbers_toJson {test : Numeral → Bool} {compiled : CompiledQuery}
    (size : test (Numeral.ofNat compiled.size.toNat) = true)
    (offset : test (Numeral.ofNat compiled.offset.toNat) = true)
    (fragments : ∀ field ∈ compiled.highlight.fields, ∀ count ∈ field.2.fragments,
      test (Numeral.ofNat count) = true) : compiled.toJson.allNumbers test = true := by
  have body : (Json.object [
      ("query", compiled.query.toJson),
      ("highlight", compiled.highlight.toJson),
      ("_source", .object [("excludes", .ofStrings [excludedField])])]).allNumbers test =
        true := by
    refine (Json.allNumbers_object test _).mpr fun member isMember => ?_
    simp only [List.mem_cons, List.not_mem_nil, or_false] at isMember
    rcases isMember with rfl | rfl | rfl
    · exact compiled.query.allNumbers_toJson test
    · exact HighlightSpec.allNumbers_toJson fragments
    · exact Clause.allNumbers_entry test "excludes"
        (Json.allNumbers_strings test [excludedField])
  refine (Json.allNumbers_object test _).mpr fun member isMember => ?_
  simp only [List.mem_cons, List.not_mem_nil, or_false] at isMember
  rcases isMember with rfl | rfl | rfl | rfl | rfl
  · rfl
  · rfl
  · exact size
  · exact offset
  · exact body

theorem isWellSpelled_toJson (compiled : CompiledQuery) :
    compiled.toJson.isWellSpelled = true :=
  allNumbers_toJson (decide_eq_true (Numeral.wellSpelled_ofNat _))
    (decide_eq_true (Numeral.wellSpelled_ofNat _))
    fun _ _ count _ => decide_eq_true (Numeral.wellSpelled_ofNat count)

theorem value?_compiled (layout : Json.Layout) (compiled : CompiledQuery) :
    Json.value? (Json.chars layout compiled.toJson) = some compiled.toJson :=
  Json.value?_chars layout compiled.isWellSpelled_toJson

theorem at?_body_query (compiled : CompiledQuery) :
    Json.at? ["body", "query"] compiled.toJson = some compiled.query.toJson := by
  rfl

end SearchQuery.CompiledQuery
