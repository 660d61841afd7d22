import SearchQuery.Proofs.Query.Rendering

/-!
# Composed terms as a value

The groups of a node are told apart by how their clauses occur, but in a value only by their keys,
and of the members of an object that have the same key the last one counts. So a group that borrows
the key of another one gives way to it, or drives it out, with all its clauses. The value of a
textual clause keeps all its terms exactly when no two of them play different parts with one key
(`compose_keeps_fanouts_iff`), as those do not that are read from a search text.
-/

set_option autoImplicit false

namespace SearchQuery

theorem Occur.ofPolarity_injective : Function.Injective ofPolarity := by
  intro first second same
  have sameKey : first.key = second.key := by
    rw [← key_ofPolarity, ← key_ofPolarity, same]
  cases first with
  | other key =>
    cases second with
    | other _ => exact congrArg Polarity.other sameKey
    | _ =>
      cases sameKey
      exact absurd same (by decide)
  | _ =>
    cases second with
    | other key =>
      cases sameKey
      exact absurd same (by decide)
    | _ => first | rfl | cases same

/-!
## Clauses that are values as they stand
-/

theorem Json.canonicalItems_map {Source : Type} (write : Source → Json String)
    {sources : List Source}
    (isValue : ∀ source ∈ sources, (write source).canonical = write source) :
    canonicalItems (sources.map write) = sources.map write := by
  induction sources with
  | nil => rfl
  | cons source rest ih =>
    obtain ⟨here, later⟩ := List.forall_mem_cons.mp isValue
    rw [List.map_cons, canonicalItems, here, ih later]

namespace Clause

theorem canonical_leaf {clause : Clause} (isLeaf : clause.toBool? = none) :
    clause.toJson.canonical = clause.toJson := by
  cases clause with
  | bool groups => cases isLeaf
  | term _ _ | matching _ _ _ | wildcard _ _ | regexp _ _ => rfl
  | queryString fields query =>
    have texts : Json.canonicalItems (fields.map .string) = fields.map .string :=
      Json.canonicalItems_map _ fun _ _ => rfl
    have inOrder : ¬ "query" < "fields" := by decide
    simp [toJson, entry, Json.canonical, Json.canonicalMembers, Json.insertMember, texts, inOrder]
  | range field atLeast atMost =>
    cases atLeast <;> cases atMost <;> rfl

theorem Flat.canonical {clause : Clause} (flat : Flat clause) :
    clause.toJson.canonical = clause.toJson := by
  obtain ⟨occur, leaves⟩ := flat
  have items := Json.canonicalItems_map toJson fun clause member =>
    canonical_leaf (leaves clause member)
  rw [← clauseItems_eq_map] at items
  change entry "bool" (.object [(occur.key, .array (Json.canonicalItems (clauseItems _)))]) = _
  rw [items]
  rfl

end Clause

namespace Term

/-- No two terms play different parts whose keys are the same. -/
def KeysApart (terms : List Term) : Prop :=
  ∀ first ∈ terms, ∀ second ∈ terms,
    first.polarity.key = second.polarity.key → first.polarity = second.polarity

/-- The value of the textual clause of some terms has, under the key of each of them, the clauses of
all terms with this key, in their order. -/
def FanoutsKept (terms : List Term) (request : SearchRequest) : Prop :=
  ∀ term ∈ terms,
    Json.at? ["bool", term.polarity.key] (compose terms request).toJson.canonical =
      some (.array ((terms.filter fun other => other.polarity.key = term.polarity.key).map
        fun other => (other.fanout request).toJson))

theorem groups_composeQuery_eq_map (terms : List Term) (request : SearchRequest) :
    (composeQuery terms request).groups =
      (terms.map fun term => Occur.ofPolarity term.polarity).eraseDups.map fun occur =>
        (occur, (terms.filter fun term => Occur.ofPolarity term.polarity = occur).map
          fun term => term.fanout request) := by
  rw [groups_composeQuery, Grouping.foldl_add_eq_map (fun term => Occur.ofPolarity term.polarity)
    (fun term => [Term.fanout term request])]
  simp only [List.map_eq_flatMap]

theorem at?_compose (terms : List Term) (request : SearchRequest) (key : String) :
    Json.at? ["bool", key] (compose terms request).toJson.canonical =
      (Json.member? key (Clause.groupMembers (composeQuery terms request).groups)).map
        Json.canonical := by
  rw [Json.at?_canonical]
  exact congrArg (Option.map Json.canonical) (Option.bind_fun_some _)

/-- Of the groups with the key of a term, one is left in the value. -/
theorem exists_group_under_key {terms : List Term} {term : Term} (isTerm : term ∈ terms)
    (request : SearchRequest) :
    ∃ other ∈ terms, other.polarity.key = term.polarity.key ∧
      Json.at? ["bool", term.polarity.key] (compose terms request).toJson.canonical =
        some (.array ((terms.filter fun each => each.polarity = other.polarity).map
          fun each => (each.fanout request).toJson)) := by
  have isKey : term.polarity.key ∈
      Json.keys (Clause.groupMembers (composeQuery terms request).groups) := by
    obtain ⟨group, isGroup, isOccur⟩ :=
      List.mem_map.mp (mem_keys_composeQuery_iff.mpr ⟨term, isTerm, rfl⟩)
    rw [Clause.groupMembers_eq_map, ← Occur.key_ofPolarity, ← isOccur]
    exact List.mem_map_of_mem (List.mem_map_of_mem isGroup)
  obtain ⟨value, isLast, isMember⟩ := Json.exists_member?_of_mem_keys isKey
  rw [Clause.groupMembers_eq_map, groups_composeQuery_eq_map] at isMember
  obtain ⟨group, isGroup, sameMember⟩ := List.mem_map.mp isMember
  obtain ⟨occur, isOccur, rfl⟩ := List.mem_map.mp isGroup
  obtain ⟨other, isOther, rfl⟩ := List.mem_map.mp (List.mem_eraseDups.mp isOccur)
  obtain ⟨sameKey, rfl⟩ := Prod.mk.inj sameMember
  have sameTerms : (terms.filter fun each =>
      Occur.ofPolarity each.polarity = Occur.ofPolarity other.polarity) =
      terms.filter fun each => each.polarity = other.polarity :=
    List.filter_congr fun each _ => decide_eq_decide.mpr Occur.ofPolarity_injective.eq_iff
  have areValues (kept : List Term) :
      Json.canonicalItems (kept.map fun each => (each.fanout request).toJson) =
        kept.map fun each => (each.fanout request).toJson :=
    Json.canonicalItems_map _ fun each _ => (each.flat_fanout request).canonical
  refine ⟨other, isOther, (Occur.key_ofPolarity _).symm.trans sameKey, ?_⟩
  rw [at?_compose, isLast, sameTerms, List.map_map]
  exact congrArg (some ∘ Json.array) (areValues _)

theorem fanoutsKept_iff (terms : List Term) (request : SearchRequest) :
    FanoutsKept terms request ↔ KeysApart terms := by
  constructor
  · intro kept first isFirst second isSecond sameKey
    obtain ⟨other, _, otherKey, found⟩ := exists_group_under_key isFirst request
    have isAll := (kept first isFirst).symm.trans found
    -- The terms of one part are among those with its key, and here they are as many.
    have fewer : (terms.filter fun each => each.polarity = other.polarity).Sublist
        (terms.filter fun each => each.polarity.key = first.polarity.key) := by
      apply List.monotone_filter_right
      intro each samePolarity
      have sameKey := congrArg Polarity.key (of_decide_eq_true samePolarity)
      exact decide_eq_true (sameKey.trans otherKey)
    have asMany := congrArg List.length (Json.array.inj (Option.some.inj isAll))
    rw [List.length_map, List.length_map] at asMany
    have same := fewer.eq_of_length asMany.symm
    have plays {term : Term} (isTerm : term ∈ terms)
        (hasKey : term.polarity.key = first.polarity.key) : term.polarity = other.polarity := by
      have isKept : term ∈ terms.filter fun each => each.polarity = other.polarity := by
        rw [same]
        exact List.mem_filter.mpr ⟨isTerm, decide_eq_true hasKey⟩
      exact of_decide_eq_true (List.mem_filter.mp isKept).2
    exact (plays isFirst rfl).trans (plays isSecond sameKey.symm).symm
  · intro apart term isTerm
    obtain ⟨other, isOther, sameKey, found⟩ := exists_group_under_key isTerm request
    rw [found]
    have sameTerms : (terms.filter fun each => each.polarity = other.polarity) =
        terms.filter fun each => each.polarity.key = term.polarity.key := by
      refine List.filter_congr fun each isEach => decide_eq_decide.mpr ?_
      rw [← sameKey]
      exact ⟨congrArg Polarity.key, apart each isEach other isOther⟩
    rw [sameTerms]

theorem keysApart_of_ofKey {terms : List Term}
    (named : ∀ term ∈ terms, ∃ key, term.polarity = .ofKey key) : KeysApart terms := by
  intro first isFirst second isSecond sameKey
  obtain ⟨firstKey, isFirstKey⟩ := named first isFirst
  obtain ⟨secondKey, isSecondKey⟩ := named second isSecond
  rw [isFirstKey, isSecondKey, Polarity.key_ofKey, Polarity.key_ofKey] at sameKey
  rw [isFirstKey, isSecondKey, sameKey]

theorem exists_ofKey_of_known {polarity : Polarity}
    (known : polarity ∈ [Polarity.must, .should, .mustNot]) : ∃ key, polarity = .ofKey key := by
  refine ⟨polarity.key, ?_⟩
  revert polarity
  decide

/-- When composing loses nothing. Parts keep their keys and are told apart as groups of a node; but
the value of the textual clause keeps all terms, each under its key and in order, exactly when no
two of them play different parts with one key. This is so for the terms of a search text, and when
all parts were named by their keys. -/
theorem compose_keeps_fanouts_iff (terms : List Term) (request : SearchRequest) :
    (FanoutsKept terms request ↔
      ∀ first ∈ terms, ∀ second ∈ terms,
        first.polarity.key = second.polarity.key → first.polarity = second.polarity) ∧
    (∀ polarity, (Occur.ofPolarity polarity).key = polarity.key) ∧
    Function.Injective Occur.ofPolarity ∧
    Occur.ofPolarity (.other "filter") = .filter ∧
    (∀ search, (extract search).value = .ok terms → FanoutsKept terms request) ∧
    ((∀ term ∈ terms, ∃ key, term.polarity = .ofKey key) → FanoutsKept terms request) := by
  have kept_iff := fanoutsKept_iff terms request
  refine ⟨kept_iff, Occur.key_ofPolarity, Occur.ofPolarity_injective, rfl, ?_, ?_⟩
  · intro search found
    apply kept_iff.mpr
    apply keysApart_of_ofKey
    exact fun term isTerm => exists_ofKey_of_known (known_of_extract found isTerm)
  · exact fun named => kept_iff.mpr (keysApart_of_ofKey named)

/-- A group that comes later drives out the one whose key it borrows. -/
example (request : SearchRequest) :
    let first : Term := ⟨"a", .must, .fuzzy⟩
    let second : Term := ⟨"b", .other "must", .fuzzy⟩
    Json.at? ["bool", "must"] (compose [first, second] request).toJson.canonical =
      some (.array [(second.fanout request).toJson.canonical]) :=
  rfl

end Term

end SearchQuery
