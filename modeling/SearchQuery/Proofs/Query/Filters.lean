import SearchQuery.Proofs.Query.Meaning
import SearchQuery.Query.Filter

/-!
# What the filters of a query mean

The filters let a document through when it belongs to the provider, the viewer may see it, and it
passes all that the request asks for besides text. The two kinds of tags and of patterns differ: of
the meta tags any will do, of the sub-tags all are needed; a group of patterns with wildcards needs
one that fits even if it is empty, and a group of regular expressions needs one only if it has any.
-/

set_option autoImplicit false

namespace SearchQuery

/-- The viewer may see a document: owns it, or shares it alone, with everyone, through a group or
through a circle. -/
def Access.Admits (access : Access) (leaf : Clause → Bool) : Prop :=
  leaf (.term "owner" access.viewer) = true ∨
  leaf (.term "users" access.viewer) = true ∨
  leaf (.term "users" "__all") = true ∨
  (∃ group ∈ access.groups, leaf (.term "groups" group) = true) ∨
  ∃ circle ∈ access.circles, leaf (.term "circles" circle) = true

/-- A document passes what a request asks for besides text, provider and access. -/
structure SearchRequest.Passes (request : SearchRequest) (leaf : Clause → Bool) : Prop where
  metaTags : ∃ tag ∈ request.metaTags, leaf (.term "metatags" tag) = true
  subTags : ∀ tag ∈ request.subTags, leaf (.term "subtags" tag) = true
  wildcards : ∀ group ∈ request.wildcardFilters,
    ∃ entry ∈ group, leaf (.wildcard entry.field entry.pattern) = true
  payloads : ∀ group ∈ request.regexFilters, ∀ entry ∈ group, entry.field = "info_msg" →
    ∀ clause ∈ (LegacyInfo.decode entry.pattern).value.clauses, leaf clause = true
  expressions : ∀ group ∈ request.regexFilters, (∃ entry ∈ group, entry.field ≠ "info_msg") →
    ∃ entry ∈ group, entry.field ≠ "info_msg" ∧ leaf (.regexp entry.field entry.pattern) = true

variable (leaf : Clause → Bool)

/-!
## Provider, access and tags
-/

theorem Clause.holds_providerFilter_iff (provider : String) :
    (Clause.providerFilter provider).holds leaf = true ↔
      leaf (.term "provider" provider) = true := by
  rw [Clause.providerFilter, Clause.holds_ofGroup_must_iff, List.forall_mem_singleton]
  rfl

theorem Access.holds_filter_iff (access : Access) :
    access.filter.holds leaf = true ↔ access.Admits leaf := by
  rw [Access.filter, Clause.holds_ofGroup_should_iff, Access.clauses, Access.Admits]
  constructor
  · intro found
    obtain ⟨clause, member, holds⟩ := found
    simp only [List.mem_append, List.mem_cons, List.not_mem_nil, or_false, List.mem_map] at member
    rcases member with ((rfl | rfl | rfl) | ⟨group, inGroups, rfl⟩) | ⟨circle, inCircles, rfl⟩
    · exact .inl holds
    · exact .inr (.inl holds)
    · exact .inr (.inr (.inl holds))
    · exact .inr (.inr (.inr (.inl ⟨group, inGroups, holds⟩)))
    · exact .inr (.inr (.inr (.inr ⟨circle, inCircles, holds⟩)))
  · intro admits
    rcases admits with owns | shares | shared | ⟨group, inGroups, grants⟩ | ⟨circle, inCircles, grants⟩
    · exact ⟨.term "owner" access.viewer, by simp, owns⟩
    · exact ⟨.term "users" access.viewer, by simp, shares⟩
    · exact ⟨.term "users" "__all", by simp [Access.everyone], shared⟩
    · exact ⟨.term "groups" group, by simp [inGroups], grants⟩
    · exact ⟨.term "circles" circle, by simp [inCircles], grants⟩

theorem Clause.holds_tagFilter_should_iff (field : String) (tags : List String) :
    (Clause.tagFilter .should field tags).holds leaf = true ↔
      ∃ tag ∈ tags, leaf (.term field tag) = true := by
  rw [Clause.tagFilter, Clause.holds_ofGroup_should_iff, Clause.exists_holds_map_iff]
  rfl

theorem Clause.holds_tagFilter_must_iff (field : String) (tags : List String) :
    (Clause.tagFilter .must field tags).holds leaf = true ↔
      ∀ tag ∈ tags, leaf (.term field tag) = true := by
  rw [Clause.tagFilter, Clause.holds_ofGroup_must_iff, List.forall_mem_map]
  rfl

/-!
## Groups of patterns
-/

theorem FilterGroup.holds_wildcardFilter_iff (group : FilterGroup) :
    group.wildcardFilter.holds leaf = true ↔
      ∃ entry ∈ group, leaf (.wildcard entry.field entry.pattern) = true := by
  rw [FilterGroup.wildcardFilter, Clause.holds_ofGroup_should_iff, Clause.exists_holds_map_iff]
  rfl

theorem LegacyInfo.toBool?_of_mem_clauses {info : LegacyInfo} {clause : Clause}
    (member : clause ∈ info.clauses) : clause.toBool? = none := by
  have byName {field part : String} (inName : clause ∈ LegacyInfo.nameClauses field part) :
      clause.toBool? = none := by
    unfold LegacyInfo.nameClauses at inName
    split at inName
    · cases inName
    · rw [List.mem_singleton.mp inName]
      rfl
  simp only [LegacyInfo.clauses, List.mem_append] at member
  rcases member with ((author | recipient) | start) | finish
  · exact byName author
  · exact byName recipient
  · split at start
    · cases start
    · rw [List.mem_singleton.mp start]
      rfl
  · split at finish
    · cases finish
    · rw [List.mem_singleton.mp finish]
      rfl

theorem LegacyInfo.holds_of_mem_clauses {info : LegacyInfo} {clause : Clause}
    (member : clause ∈ info.clauses) : clause.holds leaf = leaf clause :=
  Clause.holds_leaf (LegacyInfo.toBool?_of_mem_clauses member) leaf

theorem FilterGroup.holds_legacyFilter_iff (payload : String) :
    (FilterGroup.legacyFilter payload).value.holds leaf = true ↔
      ∀ clause ∈ (LegacyInfo.decode payload).value.clauses, leaf clause = true := by
  simp only [FilterGroup.legacyFilter, Reported.value_bind, Reported.value_pure,
    Clause.holds_ofGroup_must_iff]
  exact forall₂_congr fun clause member => by rw [LegacyInfo.holds_of_mem_clauses leaf member]

theorem FilterGroup.holds_legacyFilters_iff (group : FilterGroup) :
    (∀ clause ∈ group.legacyFilters.value, clause.holds leaf = true) ↔
      ∀ entry ∈ group, entry.field = "info_msg" →
        ∀ clause ∈ (LegacyInfo.decode entry.pattern).value.clauses, leaf clause = true := by
  simp only [FilterGroup.legacyFilters, Reported.value_forEach, List.forall_mem_map,
    List.mem_filter, FilterGroup.holds_legacyFilter_iff, FilterEntry.isLegacy,
    FilterEntry.legacyField, beq_iff_eq, and_imp]

theorem FilterGroup.holds_expressionFilters_iff (group : FilterGroup) :
    (∀ clause ∈ group.expressionFilters, clause.holds leaf = true) ↔
      ((∃ entry ∈ group, entry.field ≠ "info_msg") →
        ∃ entry ∈ group, entry.field ≠ "info_msg" ∧
          leaf (.regexp entry.field entry.pattern) = true) := by
  have plain (entry : FilterEntry) :
      entry ∈ group.filter (!·.isLegacy) ↔ entry ∈ group ∧ entry.field ≠ "info_msg" := by
    simp [FilterEntry.isLegacy, FilterEntry.legacyField]
  unfold FilterGroup.expressionFilters
  split
  · rename_i none
    constructor
    · intro _ found
      obtain ⟨entry, member, isPlain⟩ := found
      have inPlain := (plain entry).mpr ⟨member, isPlain⟩
      rw [none] at inPlain
      cases inPlain
    · intro _ clause member
      cases member
  · rename_i some
    obtain ⟨first, inPlain⟩ := List.exists_mem_of_ne_nil _ some
    have found := (plain first).mp inPlain
    rw [List.forall_mem_singleton, Clause.holds_ofGroup_should_iff, Clause.exists_holds_map_iff]
    simp only [plain, and_assoc]
    constructor
    · intro fits _
      exact fits
    · intro fits
      exact fits ⟨first, found.1, found.2⟩

theorem FilterGroup.holds_regexFilter_iff (group : FilterGroup) :
    (∀ clause ∈ group.regexFilter.value, clause.holds leaf = true) ↔
      (∀ entry ∈ group, entry.field = "info_msg" →
        ∀ clause ∈ (LegacyInfo.decode entry.pattern).value.clauses, leaf clause = true) ∧
      ((∃ entry ∈ group, entry.field ≠ "info_msg") →
        ∃ entry ∈ group, entry.field ≠ "info_msg" ∧
          leaf (.regexp entry.field entry.pattern) = true) := by
  rw [← FilterGroup.holds_legacyFilters_iff, ← FilterGroup.holds_expressionFilters_iff]
  simp only [FilterGroup.regexFilter, Reported.value_bind, Reported.value_pure,
    List.forall_mem_append]

theorem FilterGroup.holds_regexFilters_iff (groups : List FilterGroup) :
    (∀ clause ∈ (FilterGroup.regexFilters groups).value, clause.holds leaf = true) ↔
      ∀ group ∈ groups, ∀ clause ∈ group.regexFilter.value, clause.holds leaf = true := by
  simp only [FilterGroup.regexFilters, Reported.value_bind, Reported.value_pure,
    Reported.value_forEach, List.forall_mem_flatten, List.forall_mem_map]

/-!
## All filters
-/

theorem SearchRequest.value_filters (request : SearchRequest) (access : Access)
    (provider : String) :
    (request.filters access provider).value =
      .providerFilter provider :: access.filter ::
        ([.tagFilter .should "metatags" request.metaTags,
          .tagFilter .must "subtags" request.subTags] ++
        FilterGroup.wildcardFilters request.wildcardFilters ++
        (FilterGroup.regexFilters request.regexFilters).value) :=
  rfl

/-- The filters of a query let a document through when it is one of the provider's, the viewer may
see it, and it passes what the request asks for. -/
theorem SearchRequest.holds_filters_iff (request : SearchRequest) (access : Access)
    (provider : String) :
    (∀ clause ∈ (request.filters access provider).value, clause.holds leaf = true) ↔
      leaf (.term "provider" provider) = true ∧ access.Admits leaf ∧ request.Passes leaf := by
  have passes : request.Passes leaf ↔
      ((∃ tag ∈ request.metaTags, leaf (.term "metatags" tag) = true) ∧
        ∀ tag ∈ request.subTags, leaf (.term "subtags" tag) = true) ∧
      (∀ group ∈ request.wildcardFilters, group.wildcardFilter.holds leaf = true) ∧
      ∀ group ∈ request.regexFilters, ∀ clause ∈ group.regexFilter.value,
        clause.holds leaf = true := by
    simp only [FilterGroup.holds_wildcardFilter_iff, FilterGroup.holds_regexFilter_iff]
    constructor
    · intro passes
      exact ⟨⟨passes.metaTags, passes.subTags⟩, passes.wildcards, fun group member =>
        ⟨passes.payloads group member, passes.expressions group member⟩⟩
    · intro all
      obtain ⟨⟨metaTags, subTags⟩, wildcards, patterns⟩ := all
      exact ⟨metaTags, subTags, wildcards, fun group member => (patterns group member).1,
        fun group member => (patterns group member).2⟩
  rw [passes, ← Access.holds_filter_iff, ← Clause.holds_providerFilter_iff,
    ← Clause.holds_tagFilter_should_iff, ← Clause.holds_tagFilter_must_iff,
    SearchRequest.value_filters, ← FilterGroup.holds_regexFilters_iff,
    FilterGroup.wildcardFilters]
  simp only [List.forall_mem_cons, List.forall_mem_append, List.forall_mem_map, and_assoc]
  simp

end SearchQuery
