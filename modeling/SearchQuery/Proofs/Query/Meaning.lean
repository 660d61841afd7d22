import SearchQuery.Proofs.Query.Grouping
import SearchQuery.Query.Clause

/-!
# What a query means

Whether a clause holds, given the truth of the conditions that are no nodes. A node holds when all
its required clauses hold, with a score or without, none of its excluded clauses holds, and, if it
has a group of optional clauses and no group of required ones, some optional clause holds. So an
empty group of optional clauses, alone in its node, holds of nothing. Groups under other keys do not
count.

`holds_bool_iff` states this about what the groups of a node list, and all proofs about the meaning
of queries go through it.
-/

set_option autoImplicit false

namespace SearchQuery.Clause

open SearchQuery.Grouping (Listed)

def hasGroup (occur : Occur) (groups : List (Occur × List Clause)) : Bool :=
  groups.any fun group => decide (group.1 = occur)

mutual

/-- Whether a clause holds when the conditions that are no nodes have the given truth values. -/
def holds (leaf : Clause → Bool) : Clause → Bool
  | bool groups =>
    required leaf groups &&
      (!hasGroup .should groups || hasGroup .must groups || hasGroup .filter groups ||
        optional leaf groups)
  | clause => leaf clause

/-- Whether all that is required in some groups holds and nothing that is excluded. -/
def required (leaf : Clause → Bool) : List (Occur × List Clause) → Bool
  | [] => true
  | (occur, clauses) :: rest =>
    (match occur with
      | .must | .filter => allHold leaf clauses
      | .mustNot => !anyHolds leaf clauses
      | .should | .other _ => true) && required leaf rest

/-- Whether anything that is optional in some groups holds. -/
def optional (leaf : Clause → Bool) : List (Occur × List Clause) → Bool
  | [] => false
  | (occur, clauses) :: rest =>
    (decide (occur = .should) && anyHolds leaf clauses) || optional leaf rest

def allHold (leaf : Clause → Bool) : List Clause → Bool
  | [] => true
  | clause :: rest => holds leaf clause && allHold leaf rest

def anyHolds (leaf : Clause → Bool) : List Clause → Bool
  | [] => false
  | clause :: rest => holds leaf clause || anyHolds leaf rest

end

theorem holds_leaf {clause : Clause} (isLeaf : clause.toBool? = none) (leaf : Clause → Bool) :
    clause.holds leaf = leaf clause := by
  cases clause with
  | bool groups => cases isLeaf
  | _ => rfl

theorem allHold_iff (leaf : Clause → Bool) (clauses : List Clause) :
    allHold leaf clauses = true ↔ ∀ clause ∈ clauses, clause.holds leaf = true := by
  induction clauses with
  | nil => simp [allHold]
  | cons clause rest ih => simp [allHold, ih]

theorem anyHolds_iff (leaf : Clause → Bool) (clauses : List Clause) :
    anyHolds leaf clauses = true ↔ ∃ clause ∈ clauses, clause.holds leaf = true := by
  induction clauses with
  | nil => simp [anyHolds]
  | cons clause rest ih => simp [anyHolds, ih]

theorem hasGroup_iff (occur : Occur) (groups : List (Occur × List Clause)) :
    hasGroup occur groups = true ↔ occur ∈ groups.map (·.1) := by
  simp [hasGroup]

theorem optional_iff (leaf : Clause → Bool) (groups : List (Occur × List Clause)) :
    optional leaf groups = true ↔
      ∃ clause, Listed .should clause groups ∧ clause.holds leaf = true := by
  induction groups with
  | nil => simp [optional, Grouping.not_listed_nil]
  | cons group rest ih =>
    obtain ⟨occur, clauses⟩ := group
    simp only [optional, Bool.or_eq_true, Bool.and_eq_true, decide_eq_true_eq, ih, anyHolds_iff,
      Grouping.listed_cons]
    constructor
    · intro either
      rcases either with ⟨rfl, clause, member, holds⟩ | ⟨clause, listed, holds⟩
      · exact ⟨clause, .inl ⟨rfl, member⟩, holds⟩
      · exact ⟨clause, .inr listed, holds⟩
    · intro parts
      rcases parts with ⟨clause, ⟨isShould, member⟩ | listed, holds⟩
      · exact .inl ⟨isShould.symm, clause, member, holds⟩
      · exact .inr ⟨clause, listed, holds⟩

theorem forall_required_cons {occur : Occur} {clauses : List Clause}
    {rest : List (Occur × List Clause)} {P : Clause → Prop} :
    (∀ clause, Listed .must clause ((occur, clauses) :: rest) ∨
      Listed .filter clause ((occur, clauses) :: rest) → P clause) ↔
      ((occur = .must ∨ occur = .filter) → ∀ clause ∈ clauses, P clause) ∧
        ∀ clause, Listed .must clause rest ∨ Listed .filter clause rest → P clause := by
  simp only [Grouping.listed_cons]
  constructor
  · intro all
    refine ⟨fun isRequired clause member => all clause ?_, fun clause later => all clause ?_⟩
    · rcases isRequired with isMust | isFilter
      · exact .inl (.inl ⟨isMust.symm, member⟩)
      · exact .inr (.inl ⟨isFilter.symm, member⟩)
    · exact later.imp .inr .inr
  · intro parts clause listed
    obtain ⟨here, later⟩ := parts
    rcases listed with (⟨isMust, member⟩ | listed) | ⟨isFilter, member⟩ | listed
    · exact here (.inl isMust.symm) clause member
    · exact later clause (.inl listed)
    · exact here (.inr isFilter.symm) clause member
    · exact later clause (.inr listed)

theorem forall_excluded_cons {occur : Occur} {clauses : List Clause}
    {rest : List (Occur × List Clause)} {P : Clause → Prop} :
    (∀ clause, Listed .mustNot clause ((occur, clauses) :: rest) → P clause) ↔
      (occur = .mustNot → ∀ clause ∈ clauses, P clause) ∧
        ∀ clause, Listed .mustNot clause rest → P clause := by
  simp only [Grouping.listed_cons]
  constructor
  · intro all
    exact ⟨fun isMustNot clause member => all clause (.inl ⟨isMustNot.symm, member⟩),
      fun clause later => all clause (.inr later)⟩
  · intro parts clause listed
    obtain ⟨here, later⟩ := parts
    rcases listed with ⟨isMustNot, member⟩ | listed
    · exact here isMustNot.symm clause member
    · exact later clause listed

theorem required_iff (leaf : Clause → Bool) (groups : List (Occur × List Clause)) :
    required leaf groups = true ↔
      (∀ clause, Listed .must clause groups ∨ Listed .filter clause groups →
        clause.holds leaf = true) ∧
      (∀ clause, Listed .mustNot clause groups → clause.holds leaf = false) := by
  induction groups with
  | nil => simp [required, Grouping.not_listed_nil]
  | cons group rest ih =>
    obtain ⟨occur, clauses⟩ := group
    have noneHolds : (!anyHolds leaf clauses) = true ↔
        ∀ clause ∈ clauses, clause.holds leaf = false := by
      rw [Bool.not_eq_true', ← Bool.not_eq_true, anyHolds_iff]
      simp
    rw [forall_required_cons, forall_excluded_cons]
    cases occur with
    | must => simp [required, ih, allHold_iff, and_assoc]
    | filter => simp [required, ih, allHold_iff, and_assoc]
    | mustNot =>
      rw [required, Bool.and_eq_true, noneHolds, ih]
      simp [and_left_comm]
    | should => simp [required, ih]
    | other key => simp [required, ih]

/-- The meaning of a node in terms of what its groups list. -/
theorem holds_bool_iff (leaf : Clause → Bool) (groups : List (Occur × List Clause)) :
    (bool groups).holds leaf = true ↔
      (∀ clause, Listed .must clause groups ∨ Listed .filter clause groups →
        clause.holds leaf = true) ∧
      (∀ clause, Listed .mustNot clause groups → clause.holds leaf = false) ∧
      (.should ∈ groups.map (·.1) → .must ∉ groups.map (·.1) → .filter ∉ groups.map (·.1) →
        ∃ clause, Listed .should clause groups ∧ clause.holds leaf = true) := by
  simp only [holds, Bool.and_eq_true, Bool.or_eq_true, Bool.not_eq_true', required_iff,
    optional_iff, ← hasGroup_iff]
  cases hasGroup .should groups <;> cases hasGroup .must groups <;>
    cases hasGroup .filter groups <;> simp [and_assoc]

/-!
## Nodes with one group
-/

theorem listed_ofGroup {occur other : Occur} {clause : Clause} {clauses : List Clause} :
    Listed other clause [(occur, clauses)] ↔ other = occur ∧ clause ∈ clauses := by
  rw [Grouping.listed_cons, or_iff_left (Grouping.not_listed_nil _ _)]

theorem holds_ofGroup_must_iff (leaf : Clause → Bool) (clauses : List Clause) :
    (ofGroup .must clauses).holds leaf = true ↔ ∀ clause ∈ clauses, clause.holds leaf = true := by
  rw [show ofGroup .must clauses = bool [(.must, clauses)] from rfl, holds_bool_iff]
  simp only [listed_ofGroup]
  simp

theorem holds_ofGroup_should_iff (leaf : Clause → Bool) (clauses : List Clause) :
    (ofGroup .should clauses).holds leaf = true ↔
      ∃ clause ∈ clauses, clause.holds leaf = true := by
  rw [show ofGroup .should clauses = bool [(.should, clauses)] from rfl, holds_bool_iff]
  simp only [listed_ofGroup]
  simp

theorem exists_holds_map_iff {Source : Type} (leaf : Clause → Bool) (build : Source → Clause)
    (sources : List Source) :
    (∃ clause ∈ sources.map build, clause.holds leaf = true) ↔
      ∃ source ∈ sources, (build source).holds leaf = true := by
  constructor
  · intro found
    obtain ⟨clause, member, holds⟩ := found
    obtain ⟨source, isSource, rfl⟩ := List.mem_map.mp member
    exact ⟨source, isSource, holds⟩
  · intro found
    obtain ⟨source, isSource, holds⟩ := found
    exact ⟨build source, List.mem_map_of_mem isSource, holds⟩

end SearchQuery.Clause
