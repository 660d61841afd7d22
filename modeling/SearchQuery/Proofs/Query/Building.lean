import SearchQuery.Proofs.Query.Grouping
import SearchQuery.Query.Clause

/-!
# Nodes are built by additions

A node comes about by additions, each of one clause or of a list of clauses to a group. Which
additions there were can be read off the node group by group: every group that was mentioned is
there, at the place of its first mention, with just the clauses that were given to it
(`groups_built`).
-/

set_option autoImplicit false

namespace SearchQuery.BoolQuery

inductive Addition where
  | one (occur : Occur) (clause : Clause)
  | many (occur : Occur) (clauses : List Clause)
  deriving Repr

namespace Addition

def occur : Addition → Occur
  | one occur _ => occur
  | many occur _ => occur

def clauses : Addition → List Clause
  | one _ clause => [clause]
  | many _ clauses => clauses

def apply (query : BoolQuery) : Addition → BoolQuery
  | one occur clause => query.push occur clause
  | many occur clauses => query.withGroup occur clauses

theorem groups_apply (query : BoolQuery) (addition : Addition) :
    (addition.apply query).groups =
      Grouping.add addition.occur addition.clauses query.groups := by
  cases addition with
  | one occur clause => rfl
  | many occur clauses => rfl

end Addition

def built (additions : List Addition) : BoolQuery :=
  additions.foldl Addition.apply BoolQuery.empty

theorem groups_foldl_apply (additions : List Addition) (query : BoolQuery) :
    (additions.foldl Addition.apply query).groups =
      additions.foldl (fun groups addition =>
        Grouping.add addition.occur addition.clauses groups) query.groups := by
  induction additions generalizing query with
  | nil => rfl
  | cons addition rest ih => rw [List.foldl_cons, List.foldl_cons, ih, Addition.groups_apply]

/-- The clauses that some additions give to a group, in the order in which they are given. -/
def clausesFor (occur : Occur) (additions : List Addition) : List Clause :=
  (additions.filter fun addition => addition.occur = occur).flatMap Addition.clauses

/-- The groups of a node are those that were mentioned, in the order of first mention, each with the
clauses that were given to it. -/
theorem groups_built (additions : List Addition) :
    (built additions).groups =
      (additions.map Addition.occur).eraseDups.map fun occur =>
        (occur, clausesFor occur additions) := by
  rw [built, groups_foldl_apply]
  exact Grouping.foldl_add_eq_map Addition.occur Addition.clauses additions

theorem nodup_occurs_built (additions : List Addition) :
    ((built additions).groups.map (·.1)).Nodup := by
  rw [built, groups_foldl_apply]
  exact Grouping.nodup_keys_foldl_add Addition.occur Addition.clauses additions List.nodup_nil

theorem group?_built (occur : Occur) (additions : List Addition) :
    (built additions).group? occur =
      if occur ∈ additions.map Addition.occur then some (clausesFor occur additions)
      else none := by
  rw [group?, groups_built,
    Grouping.items?_map occur _ fun occur => clausesFor occur additions]
  simp only [List.mem_eraseDups]

theorem isEmpty_built_iff (additions : List Addition) :
    (built additions).isEmpty = true ↔ additions = [] := by
  rw [isEmpty, groups_built, List.isEmpty_iff, List.map_eq_nil_iff]
  constructor
  · intro nothing
    cases additions with
    | nil => rfl
    | cons addition rest => simp [List.eraseDups_cons] at nothing
  · intro nothing
    rw [nothing]
    rfl

theorem clauses_built_perm (additions : List Addition) :
    ((built additions).groups.flatMap (·.2)).Perm (additions.flatMap Addition.clauses) := by
  rw [built, groups_foldl_apply]
  exact Grouping.flatMap_foldl_add_perm Addition.occur Addition.clauses additions []

theorem built_append (additions : List Addition) (addition : Addition) :
    built (additions ++ [addition]) = addition.apply (built additions) :=
  List.foldl_append

/-- An addition leaves the other groups where they are and as they are. -/
theorem getElem?_apply_other {query : BoolQuery} {addition : Addition} {position : Nat}
    {occur : Occur} {clauses : List Clause} (different : occur ≠ addition.occur)
    (found : query.groups[position]? = some (occur, clauses)) :
    (addition.apply query).groups[position]? = some (occur, clauses) := by
  rw [Addition.groups_apply]
  exact Grouping.getElem?_add_other different found

/-- A node groups what was put in, and keeps all of it. No group occurs twice; the groups stand in
the order of first mention, each with just the clauses that were given to it, in the order in which
they were given; and a group is there when it was mentioned, if only with no clauses. Groups are
told apart by how their clauses occur, and not by their keys. -/
theorem built_keeps_groups (additions : List Addition) :
    (built additions).groups =
      (additions.map Addition.occur).eraseDups.map (fun occur =>
        (occur, clausesFor occur additions)) ∧
    ((built additions).groups.map (·.1)).Nodup ∧
    ((built additions).groups.flatMap (·.2)).Perm (additions.flatMap Addition.clauses) ∧
    (∀ occur, (built additions).group? occur =
      if occur ∈ additions.map Addition.occur then some (clausesFor occur additions) else none) ∧
    ((built additions).isEmpty = true ↔ additions = []) ∧
    (∀ (addition : Addition) (position : Nat) (occur : Occur) (clauses : List Clause),
      occur ≠ addition.occur →
      (built additions).groups[position]? = some (occur, clauses) →
      (built (additions ++ [addition])).groups[position]? = some (occur, clauses)) ∧
    (∀ occur ∈ [Occur.must, .should, .mustNot, .filter], Occur.other occur.key ≠ occur) := by
  refine ⟨groups_built additions, nodup_occurs_built additions, clauses_built_perm additions,
    fun occur => group?_built occur additions, isEmpty_built_iff additions, ?_, by decide⟩
  intro addition position occur clauses different found
  rw [built_append]
  exact getElem?_apply_other different found

/-- A group may be there without clauses, and a key of a known group does not make it that group. -/
example (a b c d : Clause) :
    (built [.many .should [], .one .mustNot a, .one (.other "must") b, .many .must [c],
      .one .mustNot d]).groups =
      [(.should, []), (.mustNot, [a, d]), (.other "must", [b]), (.must, [c])] :=
  rfl

end SearchQuery.BoolQuery
