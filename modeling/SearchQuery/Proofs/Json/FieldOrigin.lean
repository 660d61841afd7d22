import Mathlib.Data.List.Nodup
import SearchQuery.Json.Record

/-!
# Where the fields of a record come from

A field of a record that has been read holds what the tree gives it, and if the tree gives it
nothing, its default. An object gives it the value of the one member with its name, an array the
item in its place (`FieldGiven`). So it can be told afterwards whether a value was written or filled
in, for any field that is changed by its own reader alone (`Enters`, `fieldGiven_of_recordOr?`).
-/

set_option autoImplicit false

namespace SearchQuery.Json

variable {Text Record Value Given : Type}

/-- What a tree gives to the field of a name, if anything, when the fields of the record are
declared in the order of the names. -/
inductive FieldGiven (text? : Text → Option String) (names : List String) (name : String)
    (read? : Json Text → Option Value) : Json Text → Option Value → Prop where
  | noMember {members : List (Text × Json Text)} :
      (∀ member ∈ members, text? member.1 ≠ some name) →
      FieldGiven text? names name read? (.object members) none
  | member {before after : List (Text × Json Text)} {key : Text} {tree : Json Text}
      {value : Value} :
      text? key = some name → read? tree = some value →
      (∀ member ∈ before ++ after, text? member.1 ≠ some name) →
      FieldGiven text? names name read? (.object (before ++ (key, tree) :: after)) (some value)
  | noItem {items : List (Json Text)} :
      items.length ≤ names.idxOf name → FieldGiven text? names name read? (.array items) none
  | item {items : List (Json Text)} {tree : Json Text} {value : Value} :
      items[names.idxOf name]? = some tree → read? tree = some value →
      FieldGiven text? names name read? (.array items) (some value)

/-- The reader of a field enters a value into the record if it has the name, and otherwise leaves
the value as it is. -/
structure Enters (get : Record → Value) (read? : Json Text → Option Value) (name : String)
    (field : Field Text Record) : Prop where
  own : field.name = name → ∀ tree change, field.read? tree = some change →
    ∃ value, read? tree = some value ∧ ∀ record, get (change record) = value
  other : field.name ≠ name → ∀ tree change, field.read? tree = some change →
    ∀ record, get (change record) = get record

theorem Enters.of_own {get : Record → Value} {read? : Json Text → Option Value} {name : String}
    {set : Value → Record → Record} (entered : ∀ value record, get (set value record) = value) :
    Enters get read? name ⟨name, fun tree => (read? tree).map set⟩ where
  own _ tree change isRead := by
    obtain ⟨value, isValue, rfl⟩ := Option.map_eq_some_iff.mp isRead
    exact ⟨value, isValue, entered value⟩
  other different := absurd rfl different

theorem Enters.of_other {get : Record → Value} {read? : Json Text → Option Value} {name : String}
    {other : String} {otherRead? : Json Text → Option Given} {set : Given → Record → Record}
    (different : other ≠ name) (kept : ∀ value record, get (set value record) = get record) :
    Enters get read? name ⟨other, fun tree => (otherRead? tree).map set⟩ where
  own same := absurd same different
  other _ tree change isRead := by
    obtain ⟨value, _, rfl⟩ := Option.map_eq_some_iff.mp isRead
    exact kept value

section

variable {text? : Text → Option String} {names : List String} {name : String}
  {read? : Json Text → Option Value}

theorem FieldGiven.of_mem {members : List (Text × Json Text)} {given : Option Value} {key : Text}
    {tree : Json Text} (isGiven : FieldGiven text? names name read? (.object members) given)
    (isMember : (key, tree) ∈ members) (isKey : text? key = some name) : read? tree = given := by
  cases isGiven with
  | noMember missing => exact absurd isKey (missing (key, tree) isMember)
  | member _ isRead others =>
    rw [List.mem_append, List.mem_cons, or_left_comm, ← List.mem_append] at isMember
    obtain same | isOther := isMember
    · cases same
      exact isRead
    · exact absurd isKey (others (key, tree) isOther)

theorem FieldGiven.of_getElem? {items : List (Json Text)} {given : Option Value} {tree : Json Text}
    (isGiven : FieldGiven text? names name read? (.array items) given)
    (isItem : items[names.idxOf name]? = some tree) : read? tree = given := by
  cases isGiven with
  | noItem short => cases (List.getElem?_eq_none short).symm.trans isItem
  | item isOther isRead =>
    cases isOther.symm.trans isItem
    exact isRead

/-- A tree gives a field one thing at most. -/
theorem FieldGiven.unique {tree : Json Text} {first second : Option Value}
    (isFirst : FieldGiven text? names name read? tree first)
    (isSecond : FieldGiven text? names name read? tree second) : first = second := by
  cases isFirst with
  | noMember missing =>
    cases isSecond with
    | noMember => rfl
    | member isKey =>
      exact absurd isKey (missing _ (List.mem_append_right _ List.mem_cons_self))
  | member isKey isRead =>
    have isMember := isSecond.of_mem (List.mem_append_right _ List.mem_cons_self) isKey
    exact isRead.symm.trans isMember
  | noItem short =>
    cases isSecond with
    | noItem => rfl
    | item isItem => cases (List.getElem?_eq_none short).symm.trans isItem
  | item isItem isRead => exact isRead.symm.trans (isSecond.of_getElem? isItem)

theorem FieldGiven.cons_member {member : Text × Json Text} {members : List (Text × Json Text)}
    {given : Option Value} (isGiven : FieldGiven text? names name read? (.object members) given)
    (different : text? member.1 ≠ some name) :
    FieldGiven text? names name read? (.object (member :: members)) given := by
  cases isGiven with
  | noMember missing => exact .noMember (List.forall_mem_cons.mpr ⟨different, missing⟩)
  | @member before after key tree value isKey isRead missing =>
    exact @FieldGiven.member _ _ text? names name read? (member :: before) after key tree value
      isKey isRead (List.forall_mem_cons.mpr ⟨different, missing⟩)

theorem FieldGiven.cons_item {first : String} {item : Json Text} {items : List (Json Text)}
    {given : Option Value} (isGiven : FieldGiven text? names name read? (.array items) given)
    (different : first ≠ name) :
    FieldGiven text? (first :: names) name read? (.array (item :: items)) given := by
  have place : (first :: names).idxOf name = names.idxOf name + 1 :=
    List.idxOf_cons_ne names different
  cases isGiven with
  | noItem short => exact .noItem (place ▸ Nat.succ_le_succ short)
  | item isItem isRead => exact .item (by rw [place]; exact isItem) isRead

variable {get : Record → Value} {fields : List (Field Text Record)}

/-- The first member of an object is no field, or it is one that has not occurred. -/
theorem readMembersInto?_cons {key : Text} {tree : Json Text} {rest : List (Text × Json Text)}
    {seen last : List String} {record result : Record}
    (isRead : readMembersInto? text? fields seen record ((key, tree) :: rest) =
      some (last, result)) :
    ∃ keyName, text? key = some keyName ∧
      ((keyName ∉ fields.map Field.name ∧
        readMembersInto? text? fields seen record rest = some (last, result)) ∨
      ∃ field ∈ fields, field.name = keyName ∧ keyName ∉ seen ∧
        ∃ change, field.read? tree = some change ∧
          readMembersInto? text? fields (keyName :: seen) (change record) rest =
            some (last, result)) := by
  unfold readMembersInto? at isRead
  split at isRead
  · cases isRead
  · rename_i keyName isKey
    refine ⟨keyName, isKey, ?_⟩
    split at isRead
    · rename_i unknown
      refine .inl ⟨fun isField => ?_, isRead⟩
      obtain ⟨field, isMember, isName⟩ := List.mem_map.mp isField
      exact List.find?_eq_none.mp unknown field isMember (beq_iff_eq.mpr isName)
    · rename_i field found
      have hasName := List.find?_some found
      split at isRead
      · cases isRead
      · rename_i fresh
        split at isRead
        · cases isRead
        · rename_i change isChange
          exact .inr ⟨field, List.mem_of_find?_eq_some found, beq_iff_eq.mp hasName, fresh,
            change, isChange, isRead⟩

/-- The members of an object enter a field at most once, and not if it has been entered before. -/
theorem fieldGiven_of_readMembersInto?
    (enters : ∀ field ∈ fields, Enters get read? name field)
    (isField : name ∈ fields.map Field.name) {members : List (Text × Json Text)}
    {seen last : List String} {record result : Record}
    (isRead : readMembersInto? text? fields seen record members = some (last, result)) :
    ∃ given, FieldGiven text? names name read? (.object members) given ∧
      get result = given.getD (get record) ∧ (name ∈ seen → given = none) := by
  induction members generalizing seen record with
  | nil =>
    cases isRead
    exact ⟨none, .noMember (fun _ isMember => absurd isMember List.not_mem_nil), rfl, fun _ => rfl⟩
  | cons member rest ih =>
    obtain ⟨key, tree⟩ := member
    obtain ⟨keyName, isKey, ⟨unknown, isRest⟩ |
      ⟨field, isMember, isName, fresh, change, isChange, isRest⟩⟩ := readMembersInto?_cons isRead
    · obtain ⟨given, isGiven, isResult, once⟩ := ih isRest
      refine ⟨given, isGiven.cons_member fun same => ?_, isResult, once⟩
      rw [isKey] at same
      exact unknown (Option.some.inj same ▸ isField)
    · obtain ⟨given, isGiven, isResult, once⟩ := ih isRest
      by_cases same : keyName = name
      · -- The field is entered here, and so by no member behind this one.
        subst same
        obtain ⟨value, isValue, entered⟩ :=
          (enters field isMember).own isName tree change isChange
        rw [once List.mem_cons_self] at isGiven isResult
        cases isGiven with
        | noMember missing =>
          refine ⟨some value,
            @FieldGiven.member _ _ text? names _ read? [] rest key tree value isKey isValue missing,
            ?_, ?_⟩
          · rw [isResult]
            exact entered record
          · exact fun isSeen => absurd isSeen fresh
      · refine ⟨given, isGiven.cons_member fun isSame => ?_, ?_, ?_⟩
        · rw [isKey] at isSame
          exact same (Option.some.inj isSame)
        · rw [isResult, (enters field isMember).other (isName ▸ same) tree change isChange]
        · exact fun isSeen => once (List.mem_cons_of_mem _ isSeen)

theorem get_of_readItemsInto? (enters : ∀ field ∈ fields, Enters get read? name field)
    (notField : name ∉ fields.map Field.name) {items : List (Json Text)} {record result : Record}
    (isRead : readItemsInto? fields record items = some result) : get result = get record := by
  induction fields generalizing items record with
  | nil =>
    cases items with
    | nil =>
      cases isRead
      rfl
    | cons item rest => cases isRead
  | cons field fields ih =>
    cases items with
    | nil =>
      cases isRead
      rfl
    | cons item rest =>
      have ⟨first, others⟩ := List.forall_mem_cons.mp enters
      rw [List.map_cons, List.mem_cons, not_or] at notField
      unfold readItemsInto? at isRead
      split at isRead
      · cases isRead
      · rename_i change isChange
        rw [ih others notField.2 isRead, first.other (Ne.symm notField.1) item change isChange]

theorem fieldGiven_of_readItemsInto? (enters : ∀ field ∈ fields, Enters get read? name field)
    (nodup : (fields.map Field.name).Nodup) (isField : name ∈ fields.map Field.name)
    {items : List (Json Text)} {record result : Record}
    (isRead : readItemsInto? fields record items = some result) :
    ∃ given, FieldGiven text? (fields.map Field.name) name read? (.array items) given ∧
      get result = given.getD (get record) := by
  induction fields generalizing items record with
  | nil => exact absurd isField List.not_mem_nil
  | cons field fields ih =>
    cases items with
    | nil =>
      cases isRead
      exact ⟨none, .noItem (Nat.zero_le _), rfl⟩
    | cons item rest =>
      have ⟨first, others⟩ := List.forall_mem_cons.mp enters
      rw [List.map_cons, List.nodup_cons] at nodup
      unfold readItemsInto? at isRead
      split at isRead
      · cases isRead
      · rename_i change isChange
        by_cases same : field.name = name
        · -- The fields behind this one have other names.
          obtain ⟨value, isValue, entered⟩ := first.own same item change isChange
          refine ⟨some value, FieldGiven.item ?_ isValue, ?_⟩
          · rw [List.map_cons, same, List.idxOf_cons_self]
            rfl
          · rw [get_of_readItemsInto? others (same ▸ nodup.1) isRead]
            exact entered record
        · rw [List.map_cons, List.mem_cons] at isField
          have isOther := isField.resolve_left (Ne.symm same)
          obtain ⟨given, isGiven, isResult⟩ := ih others nodup.2 isOther isRead
          refine ⟨given, isGiven.cons_item same, ?_⟩
          rw [isResult, first.other same item change isChange]

/-- A field of a record that has been read holds what the tree gives it, or its default. -/
theorem fieldGiven_of_recordOr? (enters : ∀ field ∈ fields, Enters get read? name field)
    (nodup : (fields.map Field.name).Nodup) (isField : name ∈ fields.map Field.name)
    {default record : Record} {tree : Json Text}
    (isRead : recordOr? text? fields default tree = some record) :
    ∃ given, FieldGiven text? (fields.map Field.name) name read? tree given ∧
      get record = given.getD (get default) := by
  cases tree with
  | null | bool _ | number _ | string _ => cases isRead
  | object members =>
    obtain ⟨⟨last, result⟩, isResult, rfl⟩ := Option.map_eq_some_iff.mp isRead
    obtain ⟨given, isGiven, holds, _⟩ := fieldGiven_of_readMembersInto? enters isField isResult
    exact ⟨given, isGiven, holds⟩
  | array items => exact fieldGiven_of_readItemsInto? enters nodup isField isRead

end

end SearchQuery.Json
