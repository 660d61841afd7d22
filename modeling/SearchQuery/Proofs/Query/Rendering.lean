import SearchQuery.Command.Run
import SearchQuery.Json.Strict
import SearchQuery.Proofs.Json.Blanks
import SearchQuery.Proofs.Json.LastMember
import SearchQuery.Proofs.Json.Limits
import SearchQuery.Proofs.Query.DistinctKeys

/-!
# Renderings of a query

A query is written on one line or over several, and it is turned into a value. These are the same
document: what is written is read as that value by the strictest reader there is, and the two
written forms differ in nothing but blanks outside of strings (`renderings_agree`). The strictest
reader limits the nesting, so it has to be known how deep queries are nested at most
(`depth_toJson_le`).
-/

set_option autoImplicit false

namespace SearchQuery

open SearchQuery.Json (isSpace isWellSpelled withoutBlanks)

namespace Command

/-- What is printed without colours is a written form of the value and a line feed. -/
theorem exists_layout_printed (compact : Bool) : ∃ layout, ∀ value : Json String,
    (printed false compact value).toList = Json.chars layout value ++ ['\n'] := by
  have text (layout : Json.Layout) (value : Json String) :
      (String.ofList (Json.chars layout value) ++ "\n").toList =
        Json.chars layout value ++ ['\n'] := by
    rw [String.toList_append, String.toList_ofList]
    rfl
  cases compact with
  | true => exact ⟨.compact, text .compact⟩
  | false => exact ⟨.indented 0, text (.indented 0)⟩

theorem value?_printed {value : Json String} (wellSpelled : isWellSpelled value = true)
    (compact : Bool) : Json.value? (printed false compact value).toList = some value := by
  obtain ⟨layout, isWritten⟩ := exists_layout_printed compact
  rw [isWritten]
  exact Json.value?_chars_append layout wellSpelled ['\n'] (by simp [isSpace])

end Command

namespace Json

/-- The value that a text stands for, of members with the same key the last one, if the text is
within the limits of the strictest reader: on nesting, on numbers, and on the escapes in strings. -/
def document? (text : String) : Option (Json String) :=
  (strictValue? text).map canonical

/-- Two written forms of a value, the texts printed for it, and the value itself with the last one
of the members that have the same key, are one document. -/
structure OneDocument (value : Json String) : Prop where
  compact : document? value.compact = some value.canonical
  pretty : document? value.pretty = some value.canonical
  printed : ∀ compact, document? (Command.printed false compact value) = some value.canonical
  unspaced : withoutBlanks .outside value.pretty.toList = value.compact.toList
  lastCounts : ∀ path, at? path value.canonical = (at? path value).map canonical
  keysDistinct : value.canonical.keysDistinct = true

/-- A value that the strictest reader takes. -/
structure WithinLimits (value : Json String) : Prop where
  wellSpelled : isWellSpelled value = true
  depth : value.depth ≤ greatestDepth
  numbers : value.allNumbers (·.text?.isSome) = true

theorem at?_canonical (path : List String) (value : Json String) :
    at? path value.canonical = (at? path value).map canonical := by
  induction path generalizing value with
  | nil => rfl
  | cons key path ih =>
    cases value with
    | null | bool _ | number _ | string _ | array _ => rfl
    | object members =>
      rw [canonical, at?, at?, member?_canonicalMembers]
      cases member? key members with
      | none => rfl
      | some value => exact ih value

namespace WithinLimits

variable {value : Json String}

theorem document?_of_toList (limits : WithinLimits value) {text : String} {layout : Layout}
    {gap : List Char} (isWritten : text.toList = chars layout value ++ gap)
    (blank : ∀ c ∈ gap, isSpace c = true) : document? text = some value.canonical := by
  have kept : (decide ((spelled value).depth ≤ greatestDepth) &&
      (spelled value).allNumbers (·.text?.isSome)) = true := by
    rw [depth_spelled, allNumbers_spelled, limits.numbers, decide_eq_true limits.depth]
    rfl
  rw [document?, strictValue?, isWritten,
    read?_chars_append layout limits.wellSpelled gap blank]
  simp only [kept, if_true, mapTexts?_spelled, Option.map_some]

theorem oneDocument (limits : WithinLimits value) : OneDocument value where
  compact := by
    have isWritten : value.compact.toList = chars .compact value ++ [] := by
      rw [compact, String.toList_ofList, List.append_nil]
    exact limits.document?_of_toList isWritten (by simp)
  pretty := by
    have isWritten : value.pretty.toList = chars (.indented 0) value ++ [] := by
      rw [pretty, String.toList_ofList, List.append_nil]
    exact limits.document?_of_toList isWritten (by simp)
  printed compact := by
    obtain ⟨layout, isWritten⟩ := Command.exists_layout_printed compact
    exact limits.document?_of_toList (isWritten value) (by simp [isSpace])
  unspaced := by
    have unspaced := withoutBlanks_chars (.indented 0) value limits.wellSpelled []
    rw [List.append_nil] at unspaced
    rw [pretty, compact, String.toList_ofList, String.toList_ofList, unspaced]
    exact List.append_nil _
  lastCounts path := at?_canonical path value
  keysDistinct := keysDistinct_canonical value

end WithinLimits

end Json

theorem Numeral.text?_ofNat_isSome {n : Nat} (small : n < UInt64.size) :
    (Numeral.ofNat n).text?.isSome = true := by
  have value : (Numeral.ofNat n).wholeValue = n := Nat.ofDigitChars_ten_toDigits
  have isInteger : (Numeral.ofNat n).isInteger = true := rfl
  have unsigned : (Numeral.ofNat n).negative = false := rfl
  simp [Numeral.text?, value, isInteger, unsigned, small]

/-!
## How deep queries are nested
-/

theorem Json.depth_ofStrings (texts : List String) : (Json.ofStrings texts).depth ≤ 1 :=
  Json.depth_array_le_iff.mpr (List.forall_mem_map.mpr fun _ _ => Nat.le_refl 0)

namespace Clause

theorem depth_entry (key : String) (value : Json String) :
    (entry key value).depth = value.depth + 1 := by
  rw [entry, Json.depth, Json.membersDepth, Json.membersDepth, Nat.max_zero]

theorem depth_leaf_le {clause : Clause} (isLeaf : clause.toBool? = none) :
    clause.toJson.depth ≤ 3 := by
  cases clause with
  | bool groups => cases isLeaf
  | term _ _ | matching _ _ _ | wildcard _ _ | regexp _ _ =>
    rw [toJson, depth_entry, depth_entry, Json.depth]
    omega
  | queryString fields query =>
    rw [toJson, depth_entry]
    refine Nat.succ_le_succ (Json.depth_object_le_iff.mpr fun member isMember => ?_)
    simp only [List.mem_cons, List.not_mem_nil, or_false] at isMember
    rcases isMember with rfl | rfl
    · exact Json.depth_ofStrings fields
    · exact Nat.zero_le 1
  | range field atLeast atMost =>
    rw [toJson, depth_entry, depth_entry]
    cases atLeast <;> cases atMost <;> exact Nat.le_of_ble_eq_true rfl

theorem depth_bool_le {groups : List (Occur × List Clause)} {bound : Nat}
    (bounded : ∀ group ∈ groups, ∀ clause ∈ group.2, clause.toJson.depth ≤ bound) :
    (bool groups).toJson.depth ≤ bound + 3 := by
  rw [toJson, depth_entry, groupMembers_eq_map]
  refine Nat.succ_le_succ (Json.depth_object_le_iff.mpr (List.forall_mem_map.mpr ?_))
  intro group isGroup
  exact Json.depth_array_le_iff.mpr (List.forall_mem_map.mpr (bounded group isGroup))

theorem Flat.depth_le {clause : Clause} (flat : Flat clause) : clause.toJson.depth ≤ 6 := by
  obtain ⟨occur, leaves⟩ := flat
  refine depth_bool_le fun group isGroup clause member => ?_
  rw [List.mem_singleton.mp isGroup] at member
  exact depth_leaf_le (leaves clause member)

end Clause

theorem Term.depth_compose_le (terms : List Term) (request : SearchRequest) :
    (Term.compose terms request).toJson.depth ≤ 9 := by
  refine Clause.depth_bool_le fun group isGroup clause inGroup => ?_
  obtain ⟨term, _, _, rfl⟩ := Term.listed_composeQuery_iff.mp ⟨group.2, isGroup, inGroup⟩
  exact (term.flat_fanout request).depth_le

namespace SearchRequest

theorem depth_bodyQuery_le {request : SearchRequest} {textual : List Clause}
    (part : TextualPart request textual) (access : Access) (provider : String) :
    (bodyQuery textual (request.filters access provider).value).toClause.toJson.depth ≤ 12 := by
  refine Clause.depth_bool_le fun group isGroup clause inGroup => ?_
  rcases (listed_bodyQuery_iff part _ _ _).mp ⟨group.2, isGroup, inGroup⟩ with
    ⟨_, isTextual⟩ | ⟨_, isFilter⟩
  · cases part with
    | none _ => cases isTextual
    | terms _ _ =>
      rw [List.mem_singleton.mp isTextual]
      exact Term.depth_compose_le _ request
  · exact Nat.le_trans (flat_of_mem_filters isFilter).depth_le (by decide)

end SearchRequest

theorem HighlightSpec.depth_toJson_le (spec : HighlightSpec) : spec.toJson.depth ≤ 3 := by
  refine Json.depth_object_le_iff.mpr fun member isMember => ?_
  simp only [List.mem_cons, List.not_mem_nil, or_false] at isMember
  rcases isMember with rfl | rfl | rfl
  · refine Json.depth_object_le_iff.mpr (List.forall_mem_map.mpr fun field _ => ?_)
    obtain ⟨fragments, order⟩ := field.2
    cases fragments <;> cases order <;> exact Nat.le_of_ble_eq_true rfl
  · exact Nat.le_succ_of_le (Json.depth_ofStrings spec.preTags)
  · exact Nat.le_succ_of_le (Json.depth_ofStrings spec.postTags)

theorem CompiledQuery.depth_toJson_le {compiled : CompiledQuery} {bound : Nat}
    (highlights : 3 ≤ bound) (bounded : compiled.query.toJson.depth ≤ bound) :
    compiled.toJson.depth ≤ bound + 2 := by
  refine Json.depth_object_le_iff.mpr fun member isMember => ?_
  simp only [List.mem_cons, List.not_mem_nil, or_false] at isMember
  rcases isMember with rfl | rfl | rfl | rfl | rfl
  · exact Nat.zero_le _
  · exact Nat.zero_le _
  · exact Nat.zero_le _
  · exact Nat.zero_le _
  · refine Json.depth_object_le_iff.mpr fun member isPart => ?_
    simp only [List.mem_cons, List.not_mem_nil, or_false] at isPart
    rcases isPart with rfl | rfl | rfl
    · exact bounded
    · exact Nat.le_trans compiled.highlight.depth_toJson_le highlights
    · exact Nat.le_trans (show _ ≤ 2 by decide) (Nat.le_of_succ_le highlights)

/-!
## Queries within the limits
-/

theorem SearchRequest.withinLimits_compiled {index : IndexName} {request : SearchRequest}
    {access : Access} {provider : String} {compiled : CompiledQuery}
    (compiles : (request.compile index access provider).value = .ok compiled) :
    compiled.toJson.WithinLimits := by
  obtain ⟨name, textual, _, part, isCompiled⟩ :=
    (value_compile_eq_ok_iff index request access provider compiled).mp compiles
  have shallow : compiled.query.toJson.depth ≤ 12 := by
    rw [isCompiled]
    exact depth_bodyQuery_le part access provider
  have fragments : ∀ field ∈ compiled.highlight.fields, ∀ count ∈ field.2.fragments,
      (Numeral.ofNat count).text?.isSome = true := by
    rw [isCompiled]
    intro field isField count isCount
    rcases List.mem_cons.mp isField with rfl | isPart
    · cases isCount
      exact Numeral.text?_ofNat_isSome (by decide)
    · obtain ⟨_, _, rfl⟩ := List.mem_map.mp isPart
      cases isCount
  exact {
    wellSpelled := compiled.isWellSpelled_toJson
    depth := Nat.le_trans (CompiledQuery.depth_toJson_le (by decide) shallow) (by decide)
    numbers := CompiledQuery.allNumbers_toJson
      (Numeral.text?_ofNat_isSome compiled.size.toNat_lt)
      (Numeral.text?_ofNat_isSome compiled.offset.toNat_lt) fragments }

theorem IdLookup.withinLimits_toJson (lookup : IdLookup) : lookup.toJson.WithinLimits where
  wellSpelled := rfl
  depth := Nat.le_of_ble_eq_true rfl
  numbers := rfl

/-- However a compiled query or a lookup is rendered, on one line, over several, as it is printed or
as a value, it is the same document. -/
theorem renderings_agree :
    (∀ (index : IndexName) (request : SearchRequest) (access : Access) (provider : String)
      (compiled : CompiledQuery),
      (request.compile index access provider).value = .ok compiled →
        compiled.toJson.OneDocument) ∧
    ∀ lookup : IdLookup, lookup.toJson.OneDocument := by
  constructor
  · intro index request access provider compiled compiles
    exact (SearchRequest.withinLimits_compiled compiles).oneDocument
  · intro lookup
    exact lookup.withinLimits_toJson.oneDocument

/-- A part is named twice, there are blanks, quotes and backslashes in strings, and the size of a
page is the greatest there is. -/
theorem renderings_agree_part_twice :
    let request : SearchRequest :=
      { parts := ["a  b", "a  b"], metaTags := ["\" :\\", "\n"], size := 18446744073709551615 }
    ∃ compiled, (request.compile (.known "docs") { viewer := "\" " } "files").value =
        .ok compiled ∧ compiled.toJson.OneDocument := by
  intro request
  have compiles := (SearchRequest.value_compile_eq_ok_iff (.known "docs") request
    { viewer := "\" " } "files" _).mpr ⟨"docs", _, rfl, .none rfl, rfl⟩
  exact ⟨_, compiles, renderings_agree.1 (.known "docs") request _ "files" _ compiles⟩

end SearchQuery
