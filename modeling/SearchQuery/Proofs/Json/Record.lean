import Mathlib.Data.List.Perm.Basic
import Mathlib.Data.List.Nodup
import SearchQuery.Json.Record
import SearchQuery.Proofs.Json.RoundTrip

/-!
# The ways to write a record

A record may be written as an object, with its members in any order and members among them that are
no fields, or as an array of its fields in the order of declaration. Fields with their default
values may be left out. All of this is one relation between a record and the trees that it may be
written as (`WrittenRecord`), and the readers of records give back the record that a tree is written
for (`recordOr?_of_written`, `record?_of_written`). What carries the readers through the members is
that the record read so far depends on nothing but the names that have been seen.
-/

set_option autoImplicit false

namespace SearchQuery.Json

variable {Text Record Item : Type}

/-- How the value of a field may be written, and whether the field may be left out. -/
structure FieldForm (Text : Type) where
  name : String
  Stands : Json Text → Prop
  MayMiss : Prop

/-- Members for the fields of a record, in the order of declaration. -/
inductive WrittenMembers (text? : Text → Option String) :
    List (FieldForm Text) → List (Text × Json Text) → Prop where
  | nil : WrittenMembers text? [] []
  | missing {form : FieldForm Text} {forms : List (FieldForm Text)}
      {members : List (Text × Json Text)} :
      form.MayMiss → WrittenMembers text? forms members →
      WrittenMembers text? (form :: forms) members
  | written {form : FieldForm Text} {forms : List (FieldForm Text)} {key : Text}
      {value : Json Text} {members : List (Text × Json Text)} :
      text? key = some form.name → form.Stands value → WrittenMembers text? forms members →
      WrittenMembers text? (form :: forms) ((key, value) :: members)

/-- Values for the fields of a record, in the order of declaration, up to a field from which on all
are left out. -/
inductive WrittenItems : List (FieldForm Text) → List (Json Text) → Prop where
  | missing {forms : List (FieldForm Text)} :
      (∀ form ∈ forms, form.MayMiss) → WrittenItems forms []
  | written {form : FieldForm Text} {forms : List (FieldForm Text)} {value : Json Text}
      {items : List (Json Text)} :
      form.Stands value → WrittenItems forms items → WrittenItems (form :: forms) (value :: items)

/-- A tree that a record with the fields may be written as. -/
inductive WrittenRecord (text? : Text → Option String) (forms : List (FieldForm Text)) :
    Json Text → Prop where
  | object {members known unknown : List (Text × Json Text)} :
      WrittenMembers text? forms known →
      (∀ member ∈ unknown,
        ∃ name, text? member.1 = some name ∧ name ∉ forms.map FieldForm.name) →
      members.Perm (known ++ unknown) → WrittenRecord text? forms (.object members)
  | array {items : List (Json Text)} :
      WrittenItems forms items → WrittenRecord text? forms (.array items)

def IsString (text? : Text → Option String) (text : String) (value : Json Text) : Prop :=
  ∃ source, value = .string source ∧ text? source = some text

def IsWord (word : UInt64) (value : Json Text) : Prop :=
  value = .number (Numeral.ofNat word.toNat)

def IsList (Stands : Item → Json Text → Prop) (items : List Item) (value : Json Text) : Prop :=
  ∃ values, value = .array values ∧ List.Forall₂ Stands items values

/-! ## Values of fields -/

theorem string?_of_isString {text? : Text → Option String} {text : String} {value : Json Text}
    (isString : IsString text? text value) : string? text? value = some text := by
  obtain ⟨source, rfl, isRead⟩ := isString
  exact isRead

theorem word?_of_isWord {word : UInt64} {value : Json Text} (isWord : IsWord word value) :
    word? value = some word := by
  subst isWord
  exact Numeral.toUInt64?_ofNat word

theorem list?_of_isList {item? : Json Text → Option Item} {Stands : Item → Json Text → Prop}
    (isRead : ∀ item value, Stands item value → item? value = some item) {items : List Item}
    {value : Json Text} (isList : IsList Stands items value) : list? item? value = some items := by
  obtain ⟨values, rfl, stand⟩ := isList
  rw [list?]
  induction stand with
  | nil => rfl
  | cons stands _ ih => rw [List.mapM_cons, isRead _ _ stands, ih]; rfl

/-! ## Reading what is written -/

/-- A reader's field takes the ways to write a field of a record, if the reader turns the record
that has been read so far into the one that has been read with this field. -/
structure Takes (partly : List String → Record) (field : Field Text Record)
    (form : FieldForm Text) : Prop where
  name : field.name = form.name
  read : ∀ value, form.Stands value → ∃ change, field.read? value = some change ∧
    ∀ seen, change (partly seen) = partly (form.name :: seen)

theorem Takes.of_map {Value : Type} {name : String} {read? : Json Text → Option Value}
    {set : Value → Record → Record} {partly : List String → Record} {Stands : Json Text → Prop}
    {MayMiss : Prop} {value : Value} (isRead : ∀ tree, Stands tree → read? tree = some value)
    (enters : ∀ seen, set value (partly seen) = partly (name :: seen)) :
    Takes partly ⟨name, fun tree => (read? tree).map set⟩ ⟨name, Stands, MayMiss⟩ where
  name := rfl
  read tree stands := ⟨set value, congrArg (Option.map set) (isRead tree stands), enters⟩

/-- The value of a field of a record of which the named fields have been read. -/
def heldIf {Value : Type} (seen : List String) (name : String) (value default : Value) : Value :=
  if name ∈ seen then value else default

theorem heldIf_complete {Value : Type} {seen : List String} {name : String}
    {value default : Value} (complete : value = default ∨ name ∈ seen) :
    heldIf seen name value default = value := by
  rcases complete with rfl | isSeen
  · exact ite_self _
  · exact if_pos isSeen

/-- Ways to write the fields of a record that the fields of a reader take. What has been read is the
record once all fields have been seen that may not miss. -/
structure Reads (fields : List (Field Text Record)) (forms : List (FieldForm Text))
    (partly : List String → Record) (record : Record) : Prop where
  takes : List.Forall₂ (Takes partly) fields forms
  nodup : (forms.map FieldForm.name).Nodup
  complete : ∀ seen : List String,
    (∀ form ∈ forms, form.MayMiss ∨ form.name ∈ seen) → partly seen = record

/-- The names of fields among the keys of the members. -/
def knownNames (text? : Text → Option String) (names : List String)
    (members : List (Text × Json Text)) : List String :=
  members.filterMap fun member => (text? member.1).filter (· ∈ names)

/-- A key that can be read, with a value that stands for the field of this name, if there is one. -/
def MemberStands (text? : Text → Option String) (forms : List (FieldForm Text))
    (member : Text × Json Text) : Prop :=
  ∃ name, text? member.1 = some name ∧ ∀ form ∈ forms, form.name = name → form.Stands member.2

section

variable {text? : Text → Option String} {fields : List (Field Text Record)}
  {forms : List (FieldForm Text)} {partly : List String → Record} {record : Record}

theorem knownNames_cons {names : List String} {key : Text} {name : String}
    (isKey : text? key = some name) (value : Json Text) (rest : List (Text × Json Text)) :
    knownNames text? names ((key, value) :: rest) =
      if name ∈ names then name :: knownNames text? names rest
      else knownNames text? names rest := by
  rw [knownNames, List.filterMap_cons, isKey, Option.filter_some, ← knownNames]
  by_cases known : name ∈ names
  · rw [if_pos (decide_eq_true known), if_pos known]
  · rw [if_neg (mt of_decide_eq_true known), if_neg known]

theorem knownNames_eq_nil {names : List String} {members : List (Text × Json Text)}
    (unknown : ∀ member ∈ members, ∃ name, text? member.1 = some name ∧ name ∉ names) :
    knownNames text? names members = [] := by
  rw [knownNames, List.filterMap_eq_nil_iff]
  intro member isMember
  obtain ⟨name, isKey, notKnown⟩ := unknown member isMember
  simp [isKey, notKnown]

theorem sublist_knownNames {names : List String} {members : List (Text × Json Text)}
    (written : WrittenMembers text? forms members)
    (known : ∀ form ∈ forms, form.name ∈ names) :
    (knownNames text? names members).Sublist (forms.map FieldForm.name) := by
  induction written with
  | nil => exact List.Sublist.slnil
  | missing _ _ ih => exact (ih (List.forall_mem_cons.mp known).2).cons _
  | written isKey _ _ ih =>
    rw [knownNames_cons isKey, if_pos (known _ List.mem_cons_self)]
    exact (ih (List.forall_mem_cons.mp known).2).cons_cons _

theorem mayMiss_or_mem_knownNames {names : List String} {members : List (Text × Json Text)}
    (written : WrittenMembers text? forms members)
    (known : ∀ form ∈ forms, form.name ∈ names) :
    ∀ form ∈ forms, form.MayMiss ∨ form.name ∈ knownNames text? names members := by
  induction written with
  | nil => exact fun form member => absurd member List.not_mem_nil
  | missing mayMiss _ ih =>
    exact List.forall_mem_cons.mpr ⟨.inl mayMiss, ih (List.forall_mem_cons.mp known).2⟩
  | written isKey _ _ ih =>
    rw [knownNames_cons isKey, if_pos (known _ List.mem_cons_self)]
    refine List.forall_mem_cons.mpr ⟨.inr List.mem_cons_self, fun form member => ?_⟩
    exact (ih (List.forall_mem_cons.mp known).2 form member).imp_right (List.mem_cons_of_mem _)

theorem WrittenMembers.exists_form {members : List (Text × Json Text)}
    (written : WrittenMembers text? forms members) :
    ∀ member ∈ members, ∃ form ∈ forms, text? member.1 = some form.name ∧
      form.Stands member.2 := by
  induction written with
  | nil => exact fun member isMember => absurd isMember List.not_mem_nil
  | missing _ _ ih =>
    intro member isMember
    obtain ⟨form, isForm, stands⟩ := ih member isMember
    exact ⟨form, List.mem_cons_of_mem _ isForm, stands⟩
  | written isKey stands _ ih =>
    refine List.forall_mem_cons.mpr ⟨⟨_, List.mem_cons_self, isKey, stands⟩, ?_⟩
    intro member isMember
    obtain ⟨form, isForm, stands⟩ := ih member isMember
    exact ⟨form, List.mem_cons_of_mem _ isForm, stands⟩

theorem WrittenMembers.memberStands {members : List (Text × Json Text)}
    (written : WrittenMembers text? forms members) (nodup : (forms.map FieldForm.name).Nodup) :
    ∀ member ∈ members, MemberStands text? forms member := by
  intro member isMember
  obtain ⟨form, isForm, isKey, stands⟩ := written.exists_form member isMember
  refine ⟨form.name, isKey, fun other isOther sameName => ?_⟩
  have same : other = form := List.inj_on_of_nodup_map nodup isOther isForm sameName
  exact same ▸ stands

theorem names_eq (takes : List.Forall₂ (Takes partly) fields forms) :
    fields.map Field.name = forms.map FieldForm.name := by
  induction takes with
  | nil => rfl
  | cons takesFirst _ ih => rw [List.map_cons, List.map_cons, takesFirst.name, ih]

/-- A reader finds a field for exactly the names of the fields of a record. -/
theorem find?_of_takes (takes : List.Forall₂ (Takes partly) fields forms) (name : String) :
    (fields.find? (·.name == name) = none ∧ name ∉ forms.map FieldForm.name) ∨
      ∃ field, ∃ form ∈ forms, fields.find? (·.name == name) = some field ∧
        form.name = name ∧ Takes partly field form := by
  induction takes with
  | nil => exact .inl ⟨rfl, List.not_mem_nil⟩
  | @cons field form _ _ takesFirst _ ih =>
    by_cases isName : form.name = name
    · refine .inr ⟨field, form, List.mem_cons_self, ?_, isName, takesFirst⟩
      simp [takesFirst.name, isName]
    · have skipped : (field.name == name) = false := by simp [takesFirst.name, isName]
      rw [List.find?_cons, skipped]
      rcases ih with ⟨notFound, notName⟩ | ⟨field, form, isForm, found⟩
      · exact .inl ⟨notFound, by simpa [Ne.symm isName] using notName⟩
      · exact .inr ⟨field, form, List.mem_cons_of_mem _ isForm, found⟩

theorem readMembersInto?_of_stand (takes : List.Forall₂ (Takes partly) fields forms)
    {members : List (Text × Json Text)} {seen : List String}
    (stand : ∀ member ∈ members, MemberStands text? forms member)
    (nodup : (knownNames text? (forms.map FieldForm.name) members ++ seen).Nodup) :
    readMembersInto? text? fields seen (partly seen) members =
      some ((knownNames text? (forms.map FieldForm.name) members).reverse ++ seen,
        partly ((knownNames text? (forms.map FieldForm.name) members).reverse ++ seen)) := by
  induction members generalizing seen with
  | nil => rfl
  | cons member rest ih =>
    obtain ⟨key, value⟩ := member
    obtain ⟨⟨name, isKey, stands⟩, standLater⟩ := List.forall_mem_cons.mp stand
    rw [knownNames_cons isKey] at nodup ⊢
    rw [readMembersInto?, isKey]
    rcases find?_of_takes takes name with ⟨notFound, unknown⟩ | ⟨field, form, isForm, found, rest⟩
    · rw [if_neg unknown] at nodup ⊢
      simp only [notFound]
      exact ih standLater nodup
    · obtain ⟨rfl, takesField⟩ := rest
      have known : form.name ∈ forms.map FieldForm.name := List.mem_map_of_mem isForm
      obtain ⟨change, isRead, changes⟩ := takesField.read value (stands form isForm rfl)
      rw [if_pos known, List.cons_append, ← List.nodup_middle] at nodup
      -- Names of fields occur once among the keys, and those that have been seen count as well.
      have fresh : form.name ∉ seen :=
        (List.nodup_cons.mp (List.nodup_append.mp nodup).2.1).1
      rw [if_pos known, List.reverse_cons, List.append_assoc]
      simp only [found, isRead, changes, if_neg fresh]
      exact ih standLater nodup

theorem readItemsInto?_of_written {items : List (Json Text)} (written : WrittenItems forms items)
    {fields : List (Field Text Record)} (takes : List.Forall₂ (Takes partly) fields forms)
    (seen : List String) :
    ∃ seenLast, readItemsInto? fields (partly seen) items = some (partly seenLast) ∧
      (∀ name ∈ seen, name ∈ seenLast) ∧
      ∀ form ∈ forms, form.MayMiss ∨ form.name ∈ seenLast := by
  induction written generalizing fields seen with
  | missing mayMiss =>
    exact ⟨seen, by simp only [readItemsInto?], fun _ member => member,
      fun form isForm => .inl (mayMiss form isForm)⟩
  | @written form forms value items stands _ ih =>
    cases takes with
    | cons takesFirst takesRest =>
      obtain ⟨change, isRead, changes⟩ := takesFirst.read value stands
      obtain ⟨seenLast, isLast, kept, complete⟩ := ih takesRest (form.name :: seen)
      rw [List.forall_mem_cons] at kept
      refine ⟨seenLast, ?_, kept.2, List.forall_mem_cons.mpr ⟨.inr kept.1, complete⟩⟩
      rw [readItemsInto?, isRead]
      simp only [changes, isLast]

theorem readMembersInto?_of_written (reads : Reads fields forms partly record)
    {members known unknown : List (Text × Json Text)} (written : WrittenMembers text? forms known)
    (notFields : ∀ member ∈ unknown,
      ∃ name, text? member.1 = some name ∧ name ∉ forms.map FieldForm.name)
    (mixed : members.Perm (known ++ unknown)) :
    ∃ seen, readMembersInto? text? fields [] (partly []) members = some (seen, partly seen) ∧
      ∀ form ∈ forms, form.MayMiss ∨ form.name ∈ seen := by
  have isName (form : FieldForm Text) (isForm : form ∈ forms) :
      form.name ∈ forms.map FieldForm.name := List.mem_map_of_mem isForm
  have names : (knownNames text? (forms.map FieldForm.name) members).Perm
      (knownNames text? (forms.map FieldForm.name) known) := by
    have perm := mixed.filterMap fun member =>
      (text? member.1).filter (· ∈ forms.map FieldForm.name)
    rw [List.filterMap_append] at perm
    rwa [← knownNames, ← knownNames, ← knownNames, knownNames_eq_nil notFields,
      List.append_nil] at perm
  have nodup : (knownNames text? (forms.map FieldForm.name) members ++ []).Nodup := by
    rw [List.append_nil, names.nodup_iff]
    exact (sublist_knownNames written isName).nodup reads.nodup
  have stand : ∀ member ∈ members, MemberStands text? forms member := by
    intro member isMember
    rcases List.mem_append.mp (mixed.mem_iff.mp isMember) with isKnown | isUnknown
    · exact written.memberStands reads.nodup member isKnown
    · obtain ⟨name, isKey, notName⟩ := notFields member isUnknown
      exact ⟨name, isKey, fun form isForm same => absurd (same ▸ isName form isForm) notName⟩
  refine ⟨_, readMembersInto?_of_stand reads.takes stand nodup, fun form isForm => ?_⟩
  refine (mayMiss_or_mem_knownNames written isName form isForm).imp_right fun isKnown => ?_
  exact List.mem_append_left _ (List.mem_reverse.mpr (names.mem_iff.mpr isKnown))

theorem recordOr?_of_written (reads : Reads fields forms partly record) {value : Json Text}
    (written : WrittenRecord text? forms value) :
    recordOr? text? fields (partly []) value = some record := by
  cases written with
  | object inOrder notFields mixed =>
    obtain ⟨seen, isRead, complete⟩ := readMembersInto?_of_written reads inOrder notFields mixed
    rw [recordOr?, isRead, Option.map_some, reads.complete seen complete]
  | array inOrder =>
    obtain ⟨seen, isRead, -, complete⟩ := readItemsInto?_of_written inOrder reads.takes []
    rw [recordOr?, isRead, reads.complete seen complete]

theorem WrittenItems.length_eq {items : List (Json Text)} (written : WrittenItems forms items)
    (required : ∀ form ∈ forms, ¬form.MayMiss) : items.length = forms.length := by
  induction written with
  | @missing forms mayMiss =>
    cases forms with
    | nil => rfl
    | cons form rest =>
      exact absurd (mayMiss form List.mem_cons_self) (required form List.mem_cons_self)
  | written _ _ ih =>
    rw [List.length_cons, List.length_cons, ih (List.forall_mem_cons.mp required).2]

theorem record?_of_written (reads : Reads fields forms partly record)
    (required : ∀ form ∈ forms, ¬form.MayMiss) {value : Json Text}
    (written : WrittenRecord text? forms value) :
    record? text? fields (partly []) value = some record := by
  cases written with
  | object inOrder notFields mixed =>
    obtain ⟨seen, isRead, complete⟩ := readMembersInto?_of_written reads inOrder notFields mixed
    have allSeen : (fields.all fun field => decide (field.name ∈ seen)) = true := by
      rw [List.all_eq_true]
      intro field isField
      have isName : field.name ∈ forms.map FieldForm.name :=
        names_eq reads.takes ▸ List.mem_map_of_mem isField
      obtain ⟨form, isForm, same⟩ := List.mem_map.mp isName
      exact decide_eq_true (same ▸ (complete form isForm).resolve_left (required form isForm))
    simp only [record?, isRead, allSeen, if_true, reads.complete seen complete]
  | @array items inOrder =>
    obtain ⟨seen, isRead, -, complete⟩ := readItemsInto?_of_written inOrder reads.takes []
    have enough : ¬items.length < fields.length := by
      rw [inOrder.length_eq required, reads.takes.length_eq]
      exact Nat.lt_irrefl _
    rw [record?, if_neg enough, isRead, reads.complete seen complete]

end

/-! ## All fields in order -/

/-- An object that has a member for every field, in the order of declaration. -/
def AllInOrder (text? : Text → Option String) (forms : List (FieldForm Text))
    (value : Json Text) : Prop :=
  ∃ members, value = .object members ∧
    List.Forall₂ (fun (form : FieldForm Text) (member : Text × Json Text) =>
      text? member.1 = some form.name ∧ form.Stands member.2) forms members

/-- The values of the members of an object. -/
def memberValues : Json Text → List (Json Text)
  | object members => members.map (·.2)
  | _ => []

section

variable {text? : Text → Option String} {forms : List (FieldForm Text)} {value : Json Text}

theorem AllInOrder.writtenRecord (inOrder : AllInOrder text? forms value) :
    WrittenRecord text? forms value := by
  obtain ⟨members, rfl, stand⟩ := inOrder
  have written : WrittenMembers text? forms members := by
    induction stand with
    | nil => exact .nil
    | cons stands _ ih => exact .written stands.1 stands.2 ih
  refine @WrittenRecord.object _ text? forms members members [] written ?_ ?_
  · exact fun member isMember => absurd isMember List.not_mem_nil
  · rw [List.append_nil]

theorem AllInOrder.writtenItems (inOrder : AllInOrder text? forms value) :
    WrittenRecord text? forms (.array value.memberValues) := by
  obtain ⟨members, rfl, stand⟩ := inOrder
  rw [memberValues]
  refine .array ?_
  induction stand with
  | nil => exact .missing fun form isForm => absurd isForm List.not_mem_nil
  | cons stands _ ih => exact .written stands.2 ih

end

theorem allNumbers_memberValues {test : Numeral → Bool} {value : Json String}
    (passes : allNumbers test value = true) :
    allNumbers test (.array value.memberValues) = true := by
  cases value with
  | null | bool _ | number _ | string _ | array _ => rfl
  | object members =>
    rw [memberValues, allNumbers_array, List.forall_mem_map]
    exact (allNumbers_object test members).mp passes

/-! ## Trees that are taken apart

A value that is written and taken apart is a tree that the same record may be written as. -/

theorem spelledItems_eq_map (items : List (Json String)) :
    spelledItems items = items.map spelled := by
  induction items with
  | nil => rfl
  | cons item rest ih => rw [spelledItems, ih, List.map_cons]

theorem spelledMembers_eq_map (members : List (String × Json String)) :
    spelledMembers members =
      members.map fun member => (escape member.1.toList, spelled member.2) := by
  induction members with
  | nil => rfl
  | cons member rest ih =>
    obtain ⟨key, value⟩ := member
    rw [spelledMembers, ih, List.map_cons]

theorem IsString.spelled {text : String} {value : Json String}
    (isString : IsString some text value) : IsString sourceText? text (spelled value) := by
  obtain ⟨source, rfl, isRead⟩ := isString
  exact ⟨escape source.toList, rfl, isRead ▸ sourceText?_escape source⟩

theorem IsWord.spelled {word : UInt64} {value : Json String} (isWord : IsWord word value) :
    IsWord word (spelled value) := by
  subst isWord
  rfl

theorem IsList.spelled {Stands : Item → Json String → Prop} {Spelled : Item → Json Source → Prop}
    (spells : ∀ item value, Stands item value → Spelled item value.spelled) {items : List Item}
    {value : Json String} (isList : IsList Stands items value) :
    IsList Spelled items value.spelled := by
  obtain ⟨values, rfl, stand⟩ := isList
  refine ⟨values.map Json.spelled, ?_, ?_⟩
  · rw [Json.spelled, spelledItems_eq_map]
  · rw [List.forall₂_map_right_iff]
    exact stand.imp spells

/-- The second way to write a field takes what the first one takes, once it is taken apart. -/
structure Spells (form : FieldForm String) (spelledForm : FieldForm Source) : Prop where
  name : form.name = spelledForm.name
  stands : ∀ value, form.Stands value → spelledForm.Stands value.spelled
  mayMiss : form.MayMiss → spelledForm.MayMiss

section

variable {forms : List (FieldForm String)} {spelledForms : List (FieldForm Source)}

theorem names_eq_of_spells (spells : List.Forall₂ Spells forms spelledForms) :
    forms.map FieldForm.name = spelledForms.map FieldForm.name := by
  induction spells with
  | nil => rfl
  | cons spellsFirst _ ih => rw [List.map_cons, List.map_cons, spellsFirst.name, ih]

theorem WrittenMembers.spelled {members : List (String × Json String)}
    (written : WrittenMembers some forms members) {spelledForms : List (FieldForm Source)}
    (spells : List.Forall₂ Spells forms spelledForms) :
    WrittenMembers sourceText? spelledForms (spelledMembers members) := by
  induction written generalizing spelledForms with
  | nil =>
    cases spells with
    | nil => exact .nil
  | missing mayMiss _ ih =>
    cases spells with
    | cons spellsFirst spellsRest =>
      exact .missing (spellsFirst.mayMiss mayMiss) (ih spellsRest)
  | @written _ _ key _ _ isKey stands _ ih =>
    cases spells with
    | cons spellsFirst spellsRest =>
      have isName := spellsFirst.name ▸ isKey ▸ sourceText?_escape key
      exact .written isName (spellsFirst.stands _ stands) (ih spellsRest)

theorem WrittenItems.spelled {items : List (Json String)} (written : WrittenItems forms items)
    {spelledForms : List (FieldForm Source)} (spells : List.Forall₂ Spells forms spelledForms) :
    WrittenItems spelledForms (spelledItems items) := by
  induction written generalizing spelledForms with
  | missing mayMiss =>
    refine .missing ?_
    induction spells with
    | nil => exact fun form member => absurd member List.not_mem_nil
    | cons spellsFirst _ ih =>
      rw [List.forall_mem_cons] at mayMiss
      exact List.forall_mem_cons.mpr ⟨spellsFirst.mayMiss mayMiss.1, ih mayMiss.2⟩
  | written stands _ ih =>
    cases spells with
    | cons spellsFirst spellsRest =>
      exact .written (spellsFirst.stands _ stands) (ih spellsRest)

theorem WrittenRecord.spelled (spells : List.Forall₂ Spells forms spelledForms)
    {value : Json String} (written : WrittenRecord some forms value) :
    WrittenRecord sourceText? spelledForms value.spelled := by
  cases written with
  | @object members known unknown inOrder notFields mixed =>
    have notSpelled : ∀ member ∈ spelledMembers unknown, ∃ name,
        sourceText? member.1 = some name ∧ name ∉ spelledForms.map FieldForm.name := by
      rw [spelledMembers_eq_map, List.forall_mem_map]
      intro member isMember
      obtain ⟨name, isKey, notName⟩ := notFields member isMember
      exact ⟨name, isKey ▸ sourceText?_escape member.1, names_eq_of_spells spells ▸ notName⟩
    refine .object (inOrder.spelled spells) notSpelled ?_
    rw [spelledMembers_eq_map, spelledMembers_eq_map, spelledMembers_eq_map, ← List.map_append]
    exact mixed.map _
  | array inOrder => exact .array (inOrder.spelled spells)

end

/-! ## Records that survive being written -/

/-- A record is read back from its value, from the values of its fields in order, from the texts of
both in any layout, and from all other values and texts that it may be written as. -/
structure ReadBack (ofValue? : Json String → Option Record) (ofText? : String → Option Record)
    (forms : List (FieldForm String)) (sourceForms : List (FieldForm Source))
    (json : Json String) (record : Record) : Prop where
  fromValue : ofValue? json = some record
  fromText : ∀ layout, ofText? (String.ofList (chars layout json)) = some record
  fromItems : ofValue? (.array json.memberValues) = some record
  fromItemsText : ∀ layout,
    ofText? (String.ofList (chars layout (.array json.memberValues))) = some record
  fromWritten : ∀ value, WrittenRecord some forms value → ofValue? value = some record
  fromWrittenText : ∀ layout value, isWellSpelled value = true → WrittenRecord some forms value →
    ofText? (String.ofList (chars layout value)) = some record
  fromTree : ∀ text tree, read? text.toList = some tree →
    WrittenRecord sourceText? sourceForms tree → ofText? text = some record

theorem ReadBack.of_reads {ofValue? : Json String → Option Record}
    {ofText? : String → Option Record} {forms : List (FieldForm String)}
    {sourceForms : List (FieldForm Source)} {json : Json String} {record : Record}
    (fromWritten : ∀ value, WrittenRecord some forms value → ofValue? value = some record)
    (fromTree : ∀ text tree, read? text.toList = some tree →
      WrittenRecord sourceText? sourceForms tree → ofText? text = some record)
    (spells : List.Forall₂ Spells forms sourceForms) (inOrder : AllInOrder some forms json)
    (wellSpelled : isWellSpelled json = true) :
    ReadBack ofValue? ofText? forms sourceForms json record := by
  have fromWrittenText (layout : Layout) (value : Json String)
      (valueWellSpelled : isWellSpelled value = true) (written : WrittenRecord some forms value) :
      ofText? (String.ofList (chars layout value)) = some record := by
    refine fromTree _ value.spelled ?_ (written.spelled spells)
    rw [String.toList_ofList]
    exact read?_chars layout valueWellSpelled
  exact {
    fromValue := fromWritten json inOrder.writtenRecord
    fromText := fun layout => fromWrittenText layout json wellSpelled inOrder.writtenRecord
    fromItems := fromWritten _ inOrder.writtenItems
    fromItemsText := fun layout =>
      fromWrittenText layout _ (allNumbers_memberValues wellSpelled) inOrder.writtenItems
    fromWritten := fromWritten
    fromWrittenText := fromWrittenText
    fromTree := fromTree }

end SearchQuery.Json
