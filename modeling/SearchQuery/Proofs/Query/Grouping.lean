import Mathlib.Data.List.Induction
import Mathlib.Data.List.Nodup
import SearchQuery.Query.Grouping

/-!
# What a grouping lists

Membership in a grouping, apart from the order of its keys: an item is listed under a key when the
key has a list with the item in it. Additions only ever add to what is listed, and a run of them
lists exactly what was put in.

With the order, a run of additions from nothing gives a grouping that is known in full
(`foldl_add_eq_map`): its keys are those that were mentioned, each at its first mention, and the
list of a key is all that was given under it, in the order of the additions.
-/

set_option autoImplicit false

namespace SearchQuery.Grouping

variable {Key Item : Type}

/-- An item stands in a list of a key. -/
def Listed (key : Key) (item : Item) (groups : List (Key × List Item)) : Prop :=
  ∃ items, (key, items) ∈ groups ∧ item ∈ items

theorem not_listed_nil (key : Key) (item : Item) : ¬ Listed key item [] := by
  intro listed
  obtain ⟨_, member, _⟩ := listed
  cases member

theorem listed_cons {key first : Key} {item : Item} {held : List Item}
    {rest : List (Key × List Item)} :
    Listed key item ((first, held) :: rest) ↔
      (key = first ∧ item ∈ held) ∨ Listed key item rest := by
  constructor
  · intro parts
    obtain ⟨items, member, inItems⟩ := parts
    rcases List.mem_cons.mp member with here | later
    · cases here
      exact .inl ⟨rfl, inItems⟩
    · exact .inr ⟨items, later, inItems⟩
  · intro either
    rcases either with ⟨rfl, inHeld⟩ | ⟨items, member, inItems⟩
    · exact ⟨held, List.mem_cons_self, inHeld⟩
    · exact ⟨items, List.mem_cons_of_mem _ member, inItems⟩

variable [DecidableEq Key]

theorem listed_add {key other : Key} {item : Item} {items : List Item}
    {groups : List (Key × List Item)} :
    Listed other item (add key items groups) ↔
      Listed other item groups ∨ (other = key ∧ item ∈ items) := by
  induction groups with
  | nil =>
    rw [add, listed_cons]
    exact or_comm
  | cons group rest ih =>
    obtain ⟨first, held⟩ := group
    by_cases same : first = key
    · subst same
      simp only [add, if_true, listed_cons, List.mem_append]
      constructor
      · intro either
        rcases either with ⟨isFirst, inHeld | inItems⟩ | later
        · exact .inl (.inl ⟨isFirst, inHeld⟩)
        · exact .inr ⟨isFirst, inItems⟩
        · exact .inl (.inr later)
      · intro either
        rcases either with (⟨isFirst, inHeld⟩ | later) | ⟨isFirst, inItems⟩
        · exact .inl ⟨isFirst, .inl inHeld⟩
        · exact .inr later
        · exact .inl ⟨isFirst, .inr inItems⟩
    · rw [add, if_neg same, listed_cons, listed_cons, ih, or_assoc]

theorem mem_keys_add {key other : Key} {items : List Item} {groups : List (Key × List Item)} :
    other ∈ (add key items groups).map (·.1) ↔ other ∈ groups.map (·.1) ∨ other = key := by
  rw [keys_add]
  split
  · rename_i present
    constructor
    · exact .inl
    · intro either
      rcases either with old | rfl
      · exact old
      · exact present
  · rw [List.mem_append, List.mem_singleton]

variable {Source : Type} (keyOf : Source → Key) (itemsOf : Source → List Item)

/-- A run of additions lists what was listed before and what was put in. -/
theorem listed_foldl_add {key : Key} {item : Item} (sources : List Source)
    (groups : List (Key × List Item)) :
    Listed key item
        (sources.foldl (fun groups source => add (keyOf source) (itemsOf source) groups) groups) ↔
      Listed key item groups ∨ ∃ source ∈ sources, key = keyOf source ∧ item ∈ itemsOf source := by
  induction sources generalizing groups with
  | nil => simp
  | cons source rest ih =>
    rw [List.foldl_cons, ih, listed_add, or_assoc]
    simp only [List.mem_cons, exists_eq_or_imp]

theorem mem_keys_foldl_add {key : Key} (sources : List Source) (groups : List (Key × List Item)) :
    key ∈ (sources.foldl (fun groups source => add (keyOf source) (itemsOf source) groups)
        groups).map (·.1) ↔
      key ∈ groups.map (·.1) ∨ ∃ source ∈ sources, key = keyOf source := by
  induction sources generalizing groups with
  | nil => simp
  | cons source rest ih =>
    rw [List.foldl_cons, ih, mem_keys_add, or_assoc]
    simp only [List.mem_cons, exists_eq_or_imp]

/-!
## Keys and lists in order
-/

theorem nodup_keys_add {key : Key} {items : List Item} {groups : List (Key × List Item)}
    (distinct : (groups.map (·.1)).Nodup) : ((add key items groups).map (·.1)).Nodup := by
  rw [keys_add]
  split
  · exact distinct
  · rename_i absent
    rw [← List.concat_eq_append]
    exact List.Nodup.concat absent distinct

theorem nodup_keys_foldl_add (sources : List Source) {groups : List (Key × List Item)}
    (distinct : (groups.map (·.1)).Nodup) :
    ((sources.foldl (fun groups source => add (keyOf source) (itemsOf source) groups)
      groups).map (·.1)).Nodup := by
  induction sources generalizing groups with
  | nil => exact distinct
  | cons source rest ih => exact ih (nodup_keys_add distinct)

/-- The keys stand in the order in which they were first mentioned. -/
theorem keys_foldl_add (sources : List Source) :
    (sources.foldl (fun groups source => add (keyOf source) (itemsOf source) groups)
      []).map (·.1) = (sources.map keyOf).eraseDups := by
  induction sources using List.reverseRecOn with
  | nil => rfl
  | append_singleton sources source ih =>
    rw [List.foldl_append, List.foldl_cons, List.foldl_nil, keys_add, ih, List.map_append,
      List.eraseDups_append, List.map_singleton, List.removeAll]
    by_cases mentioned : keyOf source ∈ sources.map keyOf
    · rw [if_pos (List.mem_eraseDups.mpr mentioned),
        List.filter_cons_of_neg (by simpa using mentioned)]
      exact (List.append_nil _).symm
    · rw [if_neg fun member => mentioned (List.mem_eraseDups.mp member),
        List.filter_cons_of_pos (by simpa using mentioned)]
      rfl

/-- Keys that are told apart by other keys are first mentioned in the same order. -/
theorem eraseDups_map {Other : Type} [DecidableEq Other] {f : Key → Other} {keys : List Key}
    (apart : ∀ first ∈ keys, ∀ second ∈ keys, f first = f second → first = second) :
    (keys.map f).eraseDups = keys.eraseDups.map f := by
  induction keys using List.reverseRecOn with
  | nil => rfl
  | append_singleton keys key ih =>
    have mentioned_iff : f key ∈ keys.map f ↔ key ∈ keys := by
      constructor
      · intro mentioned
        obtain ⟨other, member, same⟩ := List.mem_map.mp mentioned
        have isKey := apart other (List.mem_append_left _ member) key (by simp) same
        exact isKey ▸ member
      · exact List.mem_map_of_mem
    have earlier := ih fun first isFirst second isSecond =>
      apart first (List.mem_append_left _ isFirst) second (List.mem_append_left _ isSecond)
    rw [List.map_append, List.eraseDups_append, List.eraseDups_append, List.map_append, earlier,
      List.map_singleton, List.removeAll, List.removeAll]
    by_cases mentioned : key ∈ keys
    · rw [List.filter_cons_of_neg (by simpa using mentioned_iff.mpr mentioned),
        List.filter_cons_of_neg (by simpa using mentioned)]
      rfl
    · rw [List.filter_cons_of_pos (by simpa using mt mentioned_iff.mp mentioned),
        List.filter_cons_of_pos (by simpa using mentioned)]
      rfl

theorem getD_items?_foldl_add (key : Key) (sources : List Source)
    (groups : List (Key × List Item)) :
    (items? key (sources.foldl (fun groups source => add (keyOf source) (itemsOf source) groups)
        groups)).getD [] =
      (items? key groups).getD [] ++
        (sources.filter fun source => keyOf source = key).flatMap itemsOf := by
  induction sources generalizing groups with
  | nil => simp
  | cons source rest ih =>
    rw [List.foldl_cons, ih]
    by_cases here : keyOf source = key
    · subst here
      simp [items?_add_self]
    · rw [items?_add_other (fun same => here same.symm)]
      simp [here]

/-- A grouping without repeated keys is known from its keys and what is held under each. -/
theorem eq_map_items? {groups : List (Key × List Item)} (distinct : (groups.map (·.1)).Nodup) :
    groups = (groups.map (·.1)).map fun key => (key, (items? key groups).getD []) := by
  induction groups with
  | nil => rfl
  | cons group rest ih =>
    obtain ⟨first, held⟩ := group
    rw [List.map_cons, List.nodup_cons] at distinct
    -- Under the other keys, the lookup goes past the first group.
    have others : ∀ key ∈ rest.map (·.1), items? key ((first, held) :: rest) = items? key rest := by
      intro key member
      have different : first ≠ key := fun same => distinct.1 (same ▸ member)
      rw [items?, if_neg different]
    rw [List.map_cons, List.map_cons, items?, if_pos rfl, Option.getD_some]
    congr 1
    rw [List.map_congr_left fun key member => by rw [others key member]]
    exact ih distinct.2

/-- What a run of additions from nothing gives: the keys in the order of first mention, each with
all that was given under it, in the order in which it was given. -/
theorem foldl_add_eq_map (sources : List Source) :
    sources.foldl (fun groups source => add (keyOf source) (itemsOf source) groups) [] =
      (sources.map keyOf).eraseDups.map fun key =>
        (key, (sources.filter fun source => keyOf source = key).flatMap itemsOf) := by
  have distinct : (([] : List (Key × List Item)).map (·.1)).Nodup := List.nodup_nil
  have whole := eq_map_items? (nodup_keys_foldl_add keyOf itemsOf sources distinct)
  rw [keys_foldl_add] at whole
  rw [whole]
  refine List.map_congr_left fun key _ => ?_
  rw [getD_items?_foldl_add, items?, Option.getD_none, List.nil_append]

theorem items?_map (key : Key) (keys : List Key) (held : Key → List Item) :
    items? key (keys.map fun each => (each, held each)) =
      if key ∈ keys then some (held key) else none := by
  induction keys with
  | nil => rfl
  | cons first rest ih =>
    by_cases same : first = key
    · subst same
      simp [items?]
    · have different : key ≠ first := fun equal => same equal.symm
      rw [List.map_cons, items?, if_neg same, ih]
      simp [different]

/-- Under the other keys, an addition leaves the lists where they are and as they are. -/
theorem getElem?_add_other {key other : Key} {items held : List Item}
    {groups : List (Key × List Item)} {position : Nat} (different : other ≠ key)
    (found : groups[position]? = some (other, held)) :
    (add key items groups)[position]? = some (other, held) := by
  induction groups generalizing position with
  | nil => cases found
  | cons group rest ih =>
    obtain ⟨first, firstHeld⟩ := group
    by_cases same : first = key
    · rw [add, if_pos same]
      cases position with
      | zero =>
        cases found
        exact absurd same different
      | succ position => exact found
    · rw [add, if_neg same]
      cases position with
      | zero => exact found
      | succ position => exact ih found

/-!
## All items together
-/

theorem flatMap_add_perm (key : Key) (items : List Item) (groups : List (Key × List Item)) :
    ((add key items groups).flatMap (·.2)).Perm (groups.flatMap (·.2) ++ items) := by
  induction groups with
  | nil => simp [add]
  | cons group rest ih =>
    obtain ⟨first, held⟩ := group
    rw [add, List.flatMap_cons]
    split
    · rw [List.flatMap_cons, List.append_assoc, List.append_assoc]
      exact List.perm_append_comm.append_left held
    · rw [List.flatMap_cons, List.append_assoc]
      exact ih.append_left held

/-- No item is lost and none comes twice: a run of additions holds what was there before and what
was put in. -/
theorem flatMap_foldl_add_perm (sources : List Source) (groups : List (Key × List Item)) :
    ((sources.foldl (fun groups source => add (keyOf source) (itemsOf source) groups)
        groups).flatMap (·.2)).Perm (groups.flatMap (·.2) ++ sources.flatMap itemsOf) := by
  induction sources generalizing groups with
  | nil => simp
  | cons source rest ih =>
    rw [List.foldl_cons, List.flatMap_cons, ← List.append_assoc]
    exact (ih _).trans ((flatMap_add_perm _ _ groups).append_right _)

end SearchQuery.Grouping
