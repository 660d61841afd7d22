import SearchQuery.Proofs.Query.TextSearch

/-!
# Which fields are searched

Every term is looked for in the same fields: those that the request names and its allow-list admits
(`SearchRequest.searchedFields`). So the fields of a textual clause are those of one term, as often
as there are terms (`referencedFields_compose`), and what a clause refers to includes what any
clause inside it refers to (`Clause.Contains.referencedFields_subset`).
-/

set_option autoImplicit false

namespace SearchQuery

/-- The fields in which a request looks for text: all that it names, as far as its allow-list admits
them. An empty allow-list admits all. -/
def SearchRequest.searchedFields (request : SearchRequest) : List String :=
  (["content", "title"] ++ request.fields ++ request.wildcardFields ++
    request.parts.map ("parts." ++ ·)).filter fun field =>
      decide (request.limitFields = [] ∨ field ∈ request.limitFields)

theorem SearchRequest.allows_eq (request : SearchRequest) :
    request.allows = fun field =>
      decide (request.limitFields = [] ∨ field ∈ request.limitFields) := by
  funext field
  rw [allows, Bool.eq_iff_iff, Bool.or_eq_true, List.isEmpty_iff, List.contains_iff_mem,
    decide_eq_true_iff]

/-- A request's fields, kind by kind, each through the allow-list. -/
theorem SearchRequest.searchedFields_eq (request : SearchRequest) :
    request.searchedFields =
      (Term.defaultFields ++ request.fields).filter request.allows ++
        request.wildcardFields.filter request.allows ++
        request.partFields.filter request.allows := by
  rw [searchedFields, ← allows_eq, List.filter_append, List.filter_append]
  rfl

namespace Clause

/-- A clause is another one or stands somewhere inside it. -/
inductive Contains : Clause → Clause → Prop where
  | self (clause : Clause) : Contains clause clause
  | inside {groups : List (Occur × List Clause)} {occur : Occur} {clauses : List Clause}
      {outer inner : Clause} :
      (occur, clauses) ∈ groups → outer ∈ clauses → Contains outer inner →
      Contains (bool groups) inner

theorem fieldsOfClauses_eq_flatMap (clauses : List Clause) :
    fieldsOfClauses clauses = clauses.flatMap referencedFields := by
  induction clauses with
  | nil => rfl
  | cons clause rest ih => rw [fieldsOfClauses, ih, List.flatMap_cons]

theorem referencedFields_bool (groups : List (Occur × List Clause)) :
    (bool groups).referencedFields = (groups.flatMap (·.2)).flatMap referencedFields := by
  have each : fieldsOfGroups groups = (groups.flatMap (·.2)).flatMap referencedFields := by
    induction groups with
    | nil => rfl
    | cons group rest ih =>
      obtain ⟨occur, clauses⟩ := group
      rw [fieldsOfGroups, ih, fieldsOfClauses_eq_flatMap, List.flatMap_cons, List.flatMap_append]
  exact each

theorem Contains.referencedFields_subset {outer inner : Clause} (contains : outer.Contains inner) :
    inner.referencedFields ⊆ outer.referencedFields := by
  induction contains with
  | self clause => exact List.Subset.refl _
  | inside inGroups inClauses _ ih =>
    intro field member
    rw [referencedFields_bool, List.mem_flatMap]
    exact ⟨_, List.mem_flatMap.mpr ⟨_, inGroups, inClauses⟩, ih member⟩

end Clause

namespace Term

/-!
## One term
-/

theorem fields_partClauses (term : Term) (request : SearchRequest) :
    (term.partClauses request).flatMap Clause.referencedFields =
      request.partFields.filter request.allows := by
  rw [partClauses]
  cases request.partFields.filter request.allows with
  | nil => rfl
  | cons first others => exact List.append_nil _

theorem referencedFields_fanout (term : Term) (request : SearchRequest) :
    (term.fanout request).referencedFields = request.searchedFields := by
  have single (fields : List String) (build : String → Clause)
      (refers : ∀ field, (build field).referencedFields = [field]) :
      (fields.map build).flatMap Clause.referencedFields = fields := by
    rw [List.flatMap_map]
    simp only [refers, List.flatMap_singleton']
  rw [fanout, show ∀ clauses, Clause.ofGroup .should clauses = .bool [(.should, clauses)] from
    fun _ => rfl, Clause.referencedFields_bool, request.searchedFields_eq]
  simp only [List.flatMap_cons, List.flatMap_nil, List.append_nil, List.flatMap_append,
    fields_partClauses]
  rw [textClauses, single _ _ fun _ => rfl, wildcardClauses, single _ _ fun _ => rfl]

/-- A term is looked for nowhere exactly when no field is searched. -/
theorem fanout_eq_empty_iff (term : Term) (request : SearchRequest) :
    term.fanout request = .bool [(.should, [])] ↔ request.searchedFields = [] := by
  constructor
  · intro empty
    rw [← referencedFields_fanout term request, empty]
    rfl
  · intro none
    have kinds := request.searchedFields_eq
    rw [none, eq_comm, List.append_eq_nil_iff, List.append_eq_nil_iff] at kinds
    obtain ⟨⟨noText, noWildcards⟩, noParts⟩ := kinds
    rw [fanout, textClauses, wildcardClauses, partClauses, noText, noWildcards, noParts]
    rfl

/-!
## Terms together
-/

theorem length_clauses_composeQuery (terms : List Term) (request : SearchRequest) :
    ((composeQuery terms request).groups.flatMap (·.2)).length = terms.length := by
  rw [groups_composeQuery, (Grouping.flatMap_foldl_add_perm
    (fun term => Occur.ofPolarity term.polarity) (fun term => [fanout term request])
    terms []).length_eq]
  simp

/-- The fields of a textual clause are the fields of one term, once for every term, whatever parts
the terms play. So no clause in it refers to a field that the allow-list excludes, every term is
looked for in all fields that it admits, and in no field only if there is none. -/
theorem referencedFields_compose (terms : List Term) (request : SearchRequest) :
    (compose terms request).referencedFields =
      (List.replicate terms.length request.searchedFields).flatten ∧
    (request.limitFields ≠ [] → ∀ clause, (compose terms request).Contains clause →
      ∀ field ∈ clause.referencedFields, field ∈ request.limitFields) ∧
    (∀ term ∈ terms, (compose terms request).Contains (term.fanout request) ∧
      (term.fanout request).referencedFields = request.searchedFields ∧
      (term.fanout request = .bool [(.should, [])] ↔ request.searchedFields = [])) := by
  have fanouts : ∀ clause ∈ (composeQuery terms request).groups.flatMap (·.2),
      ∃ term ∈ terms, clause = term.fanout request := by
    intro clause member
    obtain ⟨⟨occur, clauses⟩, inGroups, inClauses⟩ := List.mem_flatMap.mp member
    obtain ⟨term, isTerm, _, isFanout⟩ := listed_composeQuery_iff.mp ⟨clauses, inGroups, inClauses⟩
    exact ⟨term, isTerm, isFanout⟩
  have whole : (compose terms request).referencedFields =
      (List.replicate terms.length request.searchedFields).flatten := by
    rw [compose, BoolQuery.toClause, Clause.referencedFields_bool, List.flatMap_def,
      ← length_clauses_composeQuery terms request, ← List.map_const']
    refine congrArg _ (List.map_congr_left fun clause member => ?_)
    obtain ⟨term, _, rfl⟩ := fanouts clause member
    exact referencedFields_fanout term request
  refine ⟨whole, ?_, ?_⟩
  · intro limited clause contains field member
    have inWhole := contains.referencedFields_subset member
    rw [whole] at inWhole
    obtain ⟨fields, isCopy, inFields⟩ := List.mem_flatten.mp inWhole
    rw [(List.mem_replicate.mp isCopy).2] at inFields
    have admitted := of_decide_eq_true (List.mem_filter.mp inFields).2
    exact admitted.resolve_left limited
  · intro term isTerm
    refine ⟨?_, referencedFields_fanout term request, fanout_eq_empty_iff term request⟩
    obtain ⟨clauses, inGroups, inClauses⟩ :=
      listed_composeQuery_iff.mpr ⟨term, isTerm, rfl, rfl⟩
    exact .inside inGroups inClauses (.self _)

end Term

end SearchQuery
