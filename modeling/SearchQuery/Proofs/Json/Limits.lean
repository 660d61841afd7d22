import SearchQuery.Proofs.Json.Resolving
import SearchQuery.Proofs.Json.RoundTrip

/-!
# Limits on values

Readers may limit how deep a value is nested and which numbers it holds. Resolving the escapes of a
text that is taken apart changes neither (`depth_of_mapTexts?`, `allNumbers_of_mapTexts?`), so a
value that is written keeps within the limits that it kept within before (`depth_spelled`,
`allNumbers_spelled`). A bound on the depth of an array or an object is one on that of its parts.
-/

set_option autoImplicit false

namespace SearchQuery.Json

theorem itemsDepth_le_iff {items : List (Json String)} {bound : Nat} :
    itemsDepth items ≤ bound ↔ ∀ item ∈ items, depth item ≤ bound := by
  induction items with
  | nil => simp [itemsDepth]
  | cons item rest ih => rw [itemsDepth, Nat.max_le, ih, List.forall_mem_cons]

theorem membersDepth_le_iff {members : List (String × Json String)} {bound : Nat} :
    membersDepth members ≤ bound ↔ ∀ member ∈ members, depth member.2 ≤ bound := by
  induction members with
  | nil => simp [membersDepth]
  | cons member rest ih => rw [membersDepth, Nat.max_le, ih, List.forall_mem_cons]

theorem depth_array_le_iff {items : List (Json String)} {bound : Nat} :
    depth (array items) ≤ bound + 1 ↔ ∀ item ∈ items, depth item ≤ bound := by
  rw [depth, Nat.add_le_add_iff_right, itemsDepth_le_iff]

theorem depth_object_le_iff {members : List (String × Json String)} {bound : Nat} :
    depth (object members) ≤ bound + 1 ↔ ∀ member ∈ members, depth member.2 ≤ bound := by
  rw [depth, Nat.add_le_add_iff_right, membersDepth_le_iff]

/-- No more arrays and objects are nested in each other than a bound says. -/
inductive NestedWithin : Nat → Json String → Prop where
  | null {bound : Nat} : NestedWithin bound null
  | bool {bound : Nat} {value : Bool} : NestedWithin bound (bool value)
  | number {bound : Nat} {numeral : Numeral} : NestedWithin bound (number numeral)
  | string {bound : Nat} {text : String} : NestedWithin bound (string text)
  | array {bound : Nat} {items : List (Json String)} :
      (∀ item ∈ items, NestedWithin bound item) → NestedWithin (bound + 1) (array items)
  | object {bound : Nat} {members : List (String × Json String)} :
      (∀ member ∈ members, NestedWithin bound member.2) →
      NestedWithin (bound + 1) (object members)

theorem NestedWithin.depth_le {bound : Nat} {value : Json String}
    (nested : NestedWithin bound value) : depth value ≤ bound := by
  induction nested with
  | null | bool | number | string => exact Nat.zero_le _
  | array _ ih => exact depth_array_le_iff.mpr ih
  | object _ ih => exact depth_object_le_iff.mpr ih

theorem nestedWithin_of_depth_le {bound : Nat} {value : Json String}
    (shallow : depth value ≤ bound) : NestedWithin bound value := by
  induction bound generalizing value with
  | zero =>
    cases value with
    | null => exact .null
    | bool _ => exact .bool
    | number _ => exact .number
    | string _ => exact .string
    | array _ | object _ => cases shallow
  | succ bound ih =>
    cases value with
    | null => exact .null
    | bool _ => exact .bool
    | number _ => exact .number
    | string _ => exact .string
    | array _ => exact .array fun item isItem => ih (depth_array_le_iff.mp shallow item isItem)
    | object _ =>
      exact .object fun member isMember => ih (depth_object_le_iff.mp shallow member isMember)

theorem depth_le_iff {bound : Nat} {value : Json String} :
    depth value ≤ bound ↔ NestedWithin bound value :=
  ⟨nestedWithin_of_depth_le, NestedWithin.depth_le⟩

section

variable {Text Other : Type} {read? : Text → Option Other}

mutual

theorem depth_of_mapTexts? {tree : Json Text} {value : Json Other}
    (resolves : mapTexts? read? tree = some value) : depth value = depth tree := by
  cases tree with
  | null | bool _ | number _ =>
    cases resolves
    rfl
  | string _ =>
    obtain ⟨text, _, rfl⟩ := Option.map_eq_some_iff.mp resolves
    rfl
  | array items =>
    obtain ⟨resolved, areItems, rfl⟩ := Option.map_eq_some_iff.mp resolves
    rw [depth, depth, itemsDepth_of_mapItemTexts? areItems]
  | object members =>
    obtain ⟨resolved, areMembers, rfl⟩ := Option.map_eq_some_iff.mp resolves
    rw [depth, depth, membersDepth_of_mapMemberTexts? areMembers]

theorem itemsDepth_of_mapItemTexts? {items : List (Json Text)} {resolved : List (Json Other)}
    (resolves : mapItemTexts? read? items = some resolved) :
    itemsDepth resolved = itemsDepth items := by
  cases items with
  | nil =>
    cases resolves
    rfl
  | cons item rest =>
    obtain ⟨first, others, isFirst, areOthers, rfl⟩ :=
      mapItemTexts?_cons_eq_some_iff.mp resolves
    rw [itemsDepth, itemsDepth, depth_of_mapTexts? isFirst, itemsDepth_of_mapItemTexts? areOthers]

theorem membersDepth_of_mapMemberTexts? {members : List (Text × Json Text)}
    {resolved : List (Other × Json Other)}
    (resolves : mapMemberTexts? read? members = some resolved) :
    membersDepth resolved = membersDepth members := by
  cases members with
  | nil =>
    cases resolves
    rfl
  | cons member rest =>
    obtain ⟨name, first, others, _, isFirst, areOthers, rfl⟩ :=
      mapMemberTexts?_cons_eq_some_iff.mp resolves
    rw [membersDepth, membersDepth, depth_of_mapTexts? isFirst,
      membersDepth_of_mapMemberTexts? areOthers]

end

mutual

theorem allNumbers_of_mapTexts? (test : Numeral → Bool) {tree : Json Text} {value : Json Other}
    (resolves : mapTexts? read? tree = some value) :
    allNumbers test value = allNumbers test tree := by
  cases tree with
  | null | bool _ | number _ =>
    cases resolves
    rfl
  | string _ =>
    obtain ⟨text, _, rfl⟩ := Option.map_eq_some_iff.mp resolves
    rfl
  | array items =>
    obtain ⟨resolved, areItems, rfl⟩ := Option.map_eq_some_iff.mp resolves
    exact allItemNumbers_of_mapItemTexts? test areItems
  | object members =>
    obtain ⟨resolved, areMembers, rfl⟩ := Option.map_eq_some_iff.mp resolves
    exact allMemberNumbers_of_mapMemberTexts? test areMembers

theorem allItemNumbers_of_mapItemTexts? (test : Numeral → Bool) {items : List (Json Text)}
    {resolved : List (Json Other)} (resolves : mapItemTexts? read? items = some resolved) :
    allItemNumbers test resolved = allItemNumbers test items := by
  cases items with
  | nil =>
    cases resolves
    rfl
  | cons item rest =>
    obtain ⟨first, others, isFirst, areOthers, rfl⟩ :=
      mapItemTexts?_cons_eq_some_iff.mp resolves
    rw [allItemNumbers, allItemNumbers, allNumbers_of_mapTexts? test isFirst,
      allItemNumbers_of_mapItemTexts? test areOthers]

theorem allMemberNumbers_of_mapMemberTexts? (test : Numeral → Bool)
    {members : List (Text × Json Text)} {resolved : List (Other × Json Other)}
    (resolves : mapMemberTexts? read? members = some resolved) :
    allMemberNumbers test resolved = allMemberNumbers test members := by
  cases members with
  | nil =>
    cases resolves
    rfl
  | cons member rest =>
    obtain ⟨name, first, others, _, isFirst, areOthers, rfl⟩ :=
      mapMemberTexts?_cons_eq_some_iff.mp resolves
    rw [allMemberNumbers, allMemberNumbers, allNumbers_of_mapTexts? test isFirst,
      allMemberNumbers_of_mapMemberTexts? test areOthers]

end

end

/-- The number stands somewhere in the tree. -/
inductive HasNumber (numeral : Numeral) : Json String → Prop where
  | number : HasNumber numeral (.number numeral)
  | array {item : Json String} {items : List (Json String)} :
      item ∈ items → HasNumber numeral item → HasNumber numeral (.array items)
  | object {name : String} {value : Json String} {members : List (String × Json String)} :
      (name, value) ∈ members → HasNumber numeral value → HasNumber numeral (.object members)

theorem HasNumber.passes {test : Numeral → Bool} {value : Json String} {numeral : Numeral}
    (isIn : HasNumber numeral value) (all : allNumbers test value = true) :
    test numeral = true := by
  induction isIn with
  | number => exact all
  | array isItem _ ih => exact ih ((allNumbers_array test _).mp all _ isItem)
  | object isMember _ ih => exact ih ((allNumbers_object test _).mp all _ isMember)

theorem allNumbers_of_hasNumber {test : Numeral → Bool} : ∀ value : Json String,
    (∀ numeral, HasNumber numeral value → test numeral = true) → allNumbers test value = true
  | null, _ | bool _, _ | string _, _ => rfl
  | number numeral, all => all numeral .number
  | array items, all => (allNumbers_array test items).mpr fun item isItem =>
    allNumbers_of_hasNumber item fun numeral isIn => all numeral (.array isItem isIn)
  | object members, all => (allNumbers_object test members).mpr fun (name, value) isMember =>
    allNumbers_of_hasNumber value fun numeral isIn => all numeral (.object isMember isIn)
decreasing_by
  · decreasing_tactic
  · have := List.sizeOf_lt_of_mem isMember
    simp only [object.sizeOf_spec, Prod.mk.sizeOf_spec] at *
    omega

theorem allNumbers_iff {test : Numeral → Bool} {value : Json String} :
    allNumbers test value = true ↔ ∀ numeral, HasNumber numeral value → test numeral = true :=
  ⟨fun all _ isIn => isIn.passes all, allNumbers_of_hasNumber value⟩

theorem depth_spelled (value : Json String) : depth (spelled value) = depth value :=
  (depth_of_mapTexts? (mapTexts?_spelled value)).symm

theorem allNumbers_spelled (test : Numeral → Bool) (value : Json String) :
    allNumbers test (spelled value) = allNumbers test value :=
  (allNumbers_of_mapTexts? test (mapTexts?_spelled value)).symm

end SearchQuery.Json
