import Mathlib.Data.List.Nodup
import Mathlib.Data.String.Basic
import SearchQuery.Json.Basic

/-!
# Values and their nodes

A value is made up of its nodes, each at the end of a path from the whole value. The paths tell the
nodes apart exactly when no object has a key twice (`nodup_paths_iff`). A canonical value never has
one twice, so that a value has the nodes of its canonical form if it has none twice either, and else
has lost some of them (`nodes_canonical_perm_iff`).
-/

set_option autoImplicit false

namespace SearchQuery.Json

/-- The keys of the members of an object, in order and with repetitions. -/
def keys (members : List (String × Json String)) : List String :=
  members.map (·.1)

theorem keys_cons (member : String × Json String) (members : List (String × Json String)) :
    keys (member :: members) = member.1 :: keys members :=
  rfl

mutual

/-- Whether no object of a value has a key twice. -/
def keysDistinct : Json String → Bool
  | null | bool _ | number _ | string _ => true
  | array items => itemKeysDistinct items
  | object members => decide (keys members).Nodup && memberKeysDistinct members

def itemKeysDistinct : List (Json String) → Bool
  | [] => true
  | item :: rest => keysDistinct item && itemKeysDistinct rest

def memberKeysDistinct : List (String × Json String) → Bool
  | [] => true
  | (_, value) :: rest => keysDistinct value && memberKeysDistinct rest

end

/-- A step down into a value. -/
inductive Step where
  | item (position : Nat)
  | member (key : String)
  deriving DecidableEq, Repr

/-- What stands at the end of a path: a value without items or members, or an array or an object,
shown as an empty one. -/
structure Node where
  path : List Step
  value : Json String
  deriving Repr

def Node.under (step : Step) (node : Node) : Node :=
  ⟨step :: node.path, node.value⟩

mutual

/-- All nodes of a value, those of an item or member behind the node it belongs to. -/
def nodes : Json String → List Node
  | null => [⟨[], null⟩]
  | bool value => [⟨[], bool value⟩]
  | number value => [⟨[], number value⟩]
  | string value => [⟨[], string value⟩]
  | array items => ⟨[], array []⟩ :: itemNodes 0 items
  | object members => ⟨[], object []⟩ :: memberNodes members

/-- The nodes of some items, of which the first stands at the given position. -/
def itemNodes (position : Nat) : List (Json String) → List Node
  | [] => []
  | item :: rest => (nodes item).map (Node.under (.item position)) ++ itemNodes (position + 1) rest

def memberNodes : List (String × Json String) → List Node
  | [] => []
  | (key, value) :: rest => (nodes value).map (Node.under (.member key)) ++ memberNodes rest

end

theorem itemKeysDistinct_iff (items : List (Json String)) :
    itemKeysDistinct items = true ↔ ∀ item ∈ items, keysDistinct item = true := by
  induction items with
  | nil => simp [itemKeysDistinct]
  | cons item rest ih => rw [itemKeysDistinct, Bool.and_eq_true, ih, List.forall_mem_cons]

theorem memberKeysDistinct_iff (members : List (String × Json String)) :
    memberKeysDistinct members = true ↔ ∀ member ∈ members, keysDistinct member.2 = true := by
  induction members with
  | nil => simp [memberKeysDistinct]
  | cons member rest ih =>
    rw [memberKeysDistinct, Bool.and_eq_true, ih, List.forall_mem_cons]

theorem keysDistinct_array_iff (items : List (Json String)) :
    keysDistinct (array items) = true ↔ ∀ item ∈ items, keysDistinct item = true := by
  rw [keysDistinct, itemKeysDistinct_iff]

theorem keysDistinct_object_iff (members : List (String × Json String)) :
    keysDistinct (object members) = true ↔
      (keys members).Nodup ∧ ∀ member ∈ members, keysDistinct member.2 = true := by
  rw [keysDistinct, Bool.and_eq_true, decide_eq_true_iff, memberKeysDistinct_iff]

/-!
## Paths
-/

theorem map_path_under (step : Step) (nodes : List Node) :
    (nodes.map (Node.under step)).map Node.path = (nodes.map Node.path).map (step :: ·) := by
  rw [List.map_map, List.map_map]
  rfl

theorem nodup_paths_under_iff (step : Step) (nodes : List Node) :
    ((nodes.map (Node.under step)).map Node.path).Nodup ↔ (nodes.map Node.path).Nodup := by
  rw [map_path_under]
  exact List.nodup_map_iff fun first second same => (List.cons.inj same).2

theorem nil_mem_paths (value : Json String) : [] ∈ value.nodes.map Node.path := by
  cases value <;> exact List.mem_cons_self

theorem exists_of_mem_itemPaths {items : List (Json String)} {position : Nat} {path : List Step}
    (member : path ∈ (itemNodes position items).map Node.path) :
    ∃ later below, position ≤ later ∧ path = .item later :: below := by
  induction items generalizing position with
  | nil => cases member
  | cons item rest ih =>
    rw [itemNodes, List.map_append, map_path_under, List.mem_append] at member
    rcases member with here | further
    · obtain ⟨below, _, rfl⟩ := List.mem_map.mp here
      exact ⟨position, below, Nat.le_refl _, rfl⟩
    · obtain ⟨later, below, bound, isPath⟩ := ih further
      exact ⟨later, below, Nat.le_of_succ_le bound, isPath⟩

theorem exists_of_mem_memberPaths {members : List (String × Json String)} {path : List Step}
    (member : path ∈ (memberNodes members).map Node.path) :
    ∃ key below, key ∈ keys members ∧ path = .member key :: below := by
  induction members with
  | nil => cases member
  | cons first rest ih =>
    rw [memberNodes, List.map_append, map_path_under, List.mem_append] at member
    rcases member with here | further
    · obtain ⟨below, _, rfl⟩ := List.mem_map.mp here
      exact ⟨first.1, below, List.mem_cons_self, rfl⟩
    · obtain ⟨key, below, isKey, isPath⟩ := ih further
      exact ⟨key, below, List.mem_cons_of_mem _ isKey, isPath⟩

theorem mem_memberPaths_of_mem_keys {members : List (String × Json String)} {key : String}
    (isKey : key ∈ keys members) : [Step.member key] ∈ (memberNodes members).map Node.path := by
  induction members with
  | nil => cases isKey
  | cons first rest ih =>
    rw [memberNodes, List.map_append, map_path_under, List.mem_append]
    rcases List.mem_cons.mp isKey with rfl | isLater
    · exact .inl (List.mem_map_of_mem (nil_mem_paths first.2))
    · exact .inr (ih isLater)

mutual

/-- The paths tell the nodes of a value apart exactly when no object has a key twice. -/
theorem nodup_paths_iff (value : Json String) :
    (value.nodes.map Node.path).Nodup ↔ value.keysDistinct = true := by
  cases value with
  | null | bool _ | number _ | string _ => exact iff_of_true (List.nodup_singleton _) rfl
  | array items =>
    have isOutside : [] ∉ (itemNodes 0 items).map Node.path := by
      intro member
      obtain ⟨_, _, _, isPath⟩ := exists_of_mem_itemPaths member
      cases isPath
    rw [nodes, List.map_cons, List.nodup_cons, keysDistinct, ← nodup_itemPaths_iff 0 items]
    exact and_iff_right isOutside
  | object members =>
    have isOutside : [] ∉ (memberNodes members).map Node.path := by
      intro member
      obtain ⟨_, _, _, isPath⟩ := exists_of_mem_memberPaths member
      cases isPath
    rw [nodes, List.map_cons, List.nodup_cons, keysDistinct, Bool.and_eq_true,
      decide_eq_true_iff, ← nodup_memberPaths_iff members]
    exact and_iff_right isOutside

theorem nodup_itemPaths_iff (position : Nat) (items : List (Json String)) :
    ((itemNodes position items).map Node.path).Nodup ↔ itemKeysDistinct items = true := by
  cases items with
  | nil => exact iff_of_true List.nodup_nil rfl
  | cons item rest =>
    have apart : (((nodes item).map (Node.under (.item position))).map Node.path).Disjoint
        ((itemNodes (position + 1) rest).map Node.path) := by
      intro path here further
      rw [map_path_under] at here
      obtain ⟨_, _, rfl⟩ := List.mem_map.mp here
      obtain ⟨_, _, bound, isPath⟩ := exists_of_mem_itemPaths further
      cases isPath
      omega
    rw [itemNodes, List.map_append, List.nodup_append', nodup_paths_under_iff,
      nodup_paths_iff item, nodup_itemPaths_iff (position + 1) rest, itemKeysDistinct,
      Bool.and_eq_true]
    exact and_congr_right fun _ => and_iff_left apart

theorem nodup_memberPaths_iff (members : List (String × Json String)) :
    ((memberNodes members).map Node.path).Nodup ↔
      (keys members).Nodup ∧ memberKeysDistinct members = true := by
  cases members with
  | nil => exact iff_of_true List.nodup_nil ⟨List.nodup_nil, rfl⟩
  | cons member rest =>
    obtain ⟨key, value⟩ := member
    have apart_iff : (((nodes value).map (Node.under (.member key))).map Node.path).Disjoint
        ((memberNodes rest).map Node.path) ↔ key ∉ keys rest := by
      rw [map_path_under]
      constructor
      · intro apart again
        exact apart (List.mem_map_of_mem (nil_mem_paths value)) (mem_memberPaths_of_mem_keys again)
      · intro isNew path here further
        obtain ⟨_, _, rfl⟩ := List.mem_map.mp here
        obtain ⟨_, _, isKey, isPath⟩ := exists_of_mem_memberPaths further
        cases isPath
        exact isNew isKey
    rw [memberNodes, List.map_append, List.nodup_append', nodup_paths_under_iff,
      nodup_paths_iff value, nodup_memberPaths_iff rest, apart_iff, keys_cons, List.nodup_cons,
      memberKeysDistinct, Bool.and_eq_true]
    constructor
    · rintro ⟨isDistinct, ⟨laterKeys, laterValues⟩, isNew⟩
      exact ⟨⟨isNew, laterKeys⟩, isDistinct, laterValues⟩
    · rintro ⟨⟨isNew, laterKeys⟩, isDistinct, laterValues⟩
      exact ⟨isDistinct, ⟨laterKeys, laterValues⟩, isNew⟩

end

/-!
## Members in the order of their keys
-/

/-- The members stand in the order of their keys, each key once. In another order, a key that comes
late would not be found when it is entered again. -/
def Sorted (members : List (String × Json String)) : Prop :=
  (keys members).Pairwise (· < ·)

theorem Sorted.nodup {members : List (String × Json String)} (sorted : Sorted members) :
    (keys members).Nodup :=
  sorted.imp fun less => ne_of_lt less

theorem mem_insertMember {key : String} {value : Json String}
    {entered : List (String × Json String)} {member : String × Json String}
    (isMember : member ∈ insertMember key value entered) :
    member = (key, value) ∨ member ∈ entered := by
  induction entered with
  | nil => exact .inl (List.mem_singleton.mp isMember)
  | cons first rest ih =>
    obtain ⟨firstKey, held⟩ := first
    rw [insertMember] at isMember
    split at isMember
    · rcases List.mem_cons.mp isMember with here | later
      · exact .inl here
      · exact .inr (List.mem_cons_of_mem _ later)
    · split at isMember
      · exact List.mem_cons.mp isMember
      · rcases List.mem_cons.mp isMember with here | later
        · exact .inr (here ▸ List.mem_cons_self)
        · exact (ih later).imp_right (List.mem_cons_of_mem _)

theorem sorted_insertMember (key : String) (value : Json String)
    {entered : List (String × Json String)} (sorted : Sorted entered) :
    Sorted (insertMember key value entered) := by
  induction entered with
  | nil => exact List.pairwise_singleton _ _
  | cons first rest ih =>
    obtain ⟨firstKey, held⟩ := first
    obtain ⟨beforeRest, sortedRest⟩ := List.pairwise_cons.mp sorted
    rw [insertMember]
    split
    · rename_i same
      subst same
      exact sorted
    · rename_i different
      split
      · rename_i less
        refine List.pairwise_cons.mpr ⟨fun other isKey => ?_, sorted⟩
        rcases List.mem_cons.mp isKey with rfl | isLater
        · exact less
        · exact less.trans (beforeRest other isLater)
      · rename_i notLess
        refine List.pairwise_cons.mpr ⟨fun other isKey => ?_, ih sortedRest⟩
        obtain ⟨member, isMember, rfl⟩ := List.mem_map.mp isKey
        rcases mem_insertMember isMember with rfl | isLater
        · exact lt_of_le_of_ne (not_lt.mp notLess) (Ne.symm different)
        · exact beforeRest member.1 (List.mem_map_of_mem isLater)

/-- A member with a new key makes no other give way. -/
theorem insertMember_perm {key : String} (value : Json String)
    {entered : List (String × Json String)} (isNew : key ∉ keys entered) :
    (insertMember key value entered).Perm ((key, value) :: entered) := by
  induction entered with
  | nil => exact .refl _
  | cons first rest ih =>
    obtain ⟨firstKey, held⟩ := first
    have different : key ≠ firstKey := fun same => isNew (same ▸ List.mem_cons_self)
    rw [insertMember, if_neg different]
    split
    · exact .refl _
    · exact ((ih fun isLater => isNew (List.mem_cons_of_mem _ isLater)).cons _).trans (.swap _ _ _)

/-!
## Canonical values
-/

mutual

theorem keysDistinct_canonical (value : Json String) : value.canonical.keysDistinct = true := by
  cases value with
  | null | bool _ | number _ | string _ => rfl
  | array items => exact itemKeysDistinct_canonical items
  | object members =>
    have nothingEntered : Sorted [] := List.Pairwise.nil
    obtain ⟨sorted, distinct⟩ := sorted_canonicalMembers members nothingEntered rfl
    rw [canonical, keysDistinct, distinct, decide_eq_true sorted.nodup]
    rfl

theorem itemKeysDistinct_canonical (items : List (Json String)) :
    itemKeysDistinct (canonicalItems items) = true := by
  cases items with
  | nil => rfl
  | cons item rest =>
    rw [canonicalItems, itemKeysDistinct, keysDistinct_canonical item,
      itemKeysDistinct_canonical rest]
    rfl

theorem sorted_canonicalMembers (members : List (String × Json String))
    {entered : List (String × Json String)} (sorted : Sorted entered)
    (distinct : memberKeysDistinct entered = true) :
    Sorted (canonicalMembers entered members) ∧
      memberKeysDistinct (canonicalMembers entered members) = true := by
  cases members with
  | nil => exact ⟨sorted, distinct⟩
  | cons member rest =>
    obtain ⟨key, value⟩ := member
    -- What has been entered stays sorted, and the values in it are canonical.
    rw [canonicalMembers]
    refine sorted_canonicalMembers rest (sorted_insertMember key _ sorted) ?_
    refine (memberKeysDistinct_iff _).mpr fun member isMember => ?_
    rcases mem_insertMember isMember with rfl | isEntered
    · exact keysDistinct_canonical value
    · exact (memberKeysDistinct_iff entered).mp distinct member isEntered

end

theorem memberNodes_eq_flatMap (members : List (String × Json String)) :
    memberNodes members =
      members.flatMap fun member => member.2.nodes.map (Node.under (.member member.1)) := by
  induction members with
  | nil => rfl
  | cons member rest ih => rw [memberNodes, ih, List.flatMap_cons]

theorem memberNodes_insertMember_perm {key : String} (value : Json String)
    {entered : List (String × Json String)} (isNew : key ∉ keys entered) :
    (memberNodes (insertMember key value entered)).Perm
      (value.nodes.map (Node.under (.member key)) ++ memberNodes entered) := by
  have moved := (insertMember_perm value isNew).flatMap_right
    fun member => member.2.nodes.map (Node.under (.member member.1))
  rwa [List.flatMap_cons, ← memberNodes_eq_flatMap, ← memberNodes_eq_flatMap] at moved

mutual

theorem nodes_canonical_perm {value : Json String} (distinct : value.keysDistinct = true) :
    value.canonical.nodes.Perm value.nodes := by
  cases value with
  | null | bool _ | number _ | string _ => exact .refl _
  | array items => exact (itemNodes_canonical_perm 0 distinct).cons _
  | object members =>
    obtain ⟨distinctKeys, distinctValues⟩ := Bool.and_eq_true_iff.mp distinct
    have entersAll : (memberNodes (canonicalMembers [] members)).Perm (memberNodes members) :=
      memberNodes_canonicalMembers_perm (decide_eq_true_iff.mp distinctKeys) distinctValues
    exact entersAll.cons _

theorem itemNodes_canonical_perm (position : Nat) {items : List (Json String)}
    (distinct : itemKeysDistinct items = true) :
    (itemNodes position (canonicalItems items)).Perm (itemNodes position items) := by
  cases items with
  | nil => exact .refl _
  | cons item rest =>
    obtain ⟨here, later⟩ := Bool.and_eq_true_iff.mp distinct
    exact ((nodes_canonical_perm here).map _).append (itemNodes_canonical_perm (position + 1) later)

/-- Members with new keys are entered one by one and none gives way. -/
theorem memberNodes_canonicalMembers_perm {members entered : List (String × Json String)}
    (distinctKeys : (keys entered ++ keys members).Nodup)
    (distinct : memberKeysDistinct members = true) :
    (memberNodes (canonicalMembers entered members)).Perm
      (memberNodes entered ++ memberNodes members) := by
  cases members with
  | nil => simp [canonicalMembers, memberNodes]
  | cons member rest =>
    obtain ⟨key, value⟩ := member
    obtain ⟨here, later⟩ := Bool.and_eq_true_iff.mp distinct
    have moved : (keys entered ++ key :: keys rest).Perm (key :: (keys entered ++ keys rest)) :=
      List.perm_middle
    have isNew : key ∉ keys entered := fun isKey =>
      (List.nodup_cons.mp (moved.nodup distinctKeys)).1 (List.mem_append_left _ isKey)
    have keysPerm : (keys (insertMember key value.canonical entered)).Perm
        (key :: keys entered) :=
      (insertMember_perm value.canonical isNew).map _
    have stillDistinct :
        (keys (insertMember key value.canonical entered) ++ keys rest).Nodup :=
      ((keysPerm.append_right (keys rest)).trans moved.symm).symm.nodup distinctKeys
    calc List.Perm (memberNodes (canonicalMembers (insertMember key value.canonical entered) rest))
          (memberNodes (insertMember key value.canonical entered) ++ memberNodes rest) :=
        memberNodes_canonicalMembers_perm stillDistinct later
      List.Perm _ ((value.canonical.nodes.map (Node.under (.member key)) ++ memberNodes entered) ++
          memberNodes rest) :=
        (memberNodes_insertMember_perm value.canonical isNew).append_right _
      List.Perm _ ((value.nodes.map (Node.under (.member key)) ++ memberNodes entered) ++
          memberNodes rest) :=
        (((nodes_canonical_perm here).map _).append_right _).append_right _
      List.Perm _ ((memberNodes entered ++ value.nodes.map (Node.under (.member key))) ++
          memberNodes rest) :=
        List.perm_append_comm.append_right _
      _ = memberNodes entered ++ memberNodes ((key, value) :: rest) := by
        rw [memberNodes, List.append_assoc]

end

/-- A value has the nodes of its canonical form exactly when no object has a key twice. -/
theorem nodes_canonical_perm_iff (value : Json String) :
    value.canonical.nodes.Perm value.nodes ↔ value.keysDistinct = true := by
  constructor
  · intro same
    rw [← nodup_paths_iff]
    exact (same.map Node.path).nodup ((nodup_paths_iff _).mpr (keysDistinct_canonical value))
  · exact nodes_canonical_perm

end SearchQuery.Json
