import SearchQuery.Proofs.Json.Grammar

/-!
# Texts and their values

The value of a JSON text is the tree that the text is taken apart into, with the escapes of its
strings resolved. Every part of the grammar resolves in the same way, its gaps and its numbers stay
as they are. So a text has a value exactly if it spells the value, with every string spelled by its
escapes (`value?_eq_some_iff`).
-/

set_option autoImplicit false

namespace SearchQuery.Json

variable {Text Other : Type} {IsBody : List Char → Text → Prop}

/-- A body between quotes whose escapes are resolved. -/
def IsEscaped (body : List Char) (text : String) : Prop :=
  Escapes body text.toList

/-- All texts of a part can be read, and make up another part. -/
inductive Resolves (read? : Text → Option Other) : Part Text → Part Other → Prop where
  | value {tree : Json Text} {resolved : Json Other} :
      mapTexts? read? tree = some resolved → Resolves read? (.value tree) (.value resolved)
  | items {trees : List (Json Text)} {resolved : List (Json Other)} :
      mapItemTexts? read? trees = some resolved → Resolves read? (.items trees) (.items resolved)
  | members {trees : List (Text × Json Text)} {resolved : List (Other × Json Other)} :
      mapMemberTexts? read? trees = some resolved →
      Resolves read? (.members trees) (.members resolved)

theorem mapItemTexts?_cons_eq_some_iff {read? : Text → Option Other} {item : Json Text}
    {rest : List (Json Text)} {resolved : List (Json Other)} :
    mapItemTexts? read? (item :: rest) = some resolved ↔
      ∃ first others, mapTexts? read? item = some first ∧
        mapItemTexts? read? rest = some others ∧ resolved = first :: others := by
  rw [mapItemTexts?]
  cases mapTexts? read? item <;> cases mapItemTexts? read? rest <;> simp [eq_comm]

theorem mapMemberTexts?_cons_eq_some_iff {read? : Text → Option Other} {key : Text}
    {value : Json Text} {rest : List (Text × Json Text)} {resolved : List (Other × Json Other)} :
    mapMemberTexts? read? ((key, value) :: rest) = some resolved ↔
      ∃ name first others, read? key = some name ∧ mapTexts? read? value = some first ∧
        mapMemberTexts? read? rest = some others ∧ resolved = (name, first) :: others := by
  rw [mapMemberTexts?]
  cases read? key <;> cases mapTexts? read? value <;> cases mapMemberTexts? read? rest <;>
    simp [eq_comm]

section

variable {IsResolved : List Char → Other → Prop} {read? : Text → Option Other}

theorem KeySpelling.resolve
    (reads : ∀ body text resolved, IsBody body text → read? text = some resolved →
      IsResolved body resolved)
    {name : List Char} {key : Text} {resolved : Other} (spelling : KeySpelling IsBody name key)
    (isRead : read? key = some resolved) : KeySpelling IsResolved name resolved := by
  obtain ⟨isBody, blankBefore, blankAfter⟩ := spelling
  exact .mk (reads _ _ _ isBody isRead) blankBefore blankAfter

/-- What spells a part spells it with its texts resolved. -/
theorem Spelling.resolve
    (reads : ∀ body text resolved, IsBody body text → read? text = some resolved →
      IsResolved body resolved)
    {written : List Char} {part : Part Text} {resolved : Part Other}
    (spelling : Spelling IsBody written part) (resolves : Resolves read? part resolved) :
    Spelling IsResolved written resolved := by
  induction spelling generalizing resolved with
  | null | boolTrue | boolFalse =>
    obtain ⟨⟨⟩⟩ := resolves
    constructor
  | number spelling =>
    obtain ⟨⟨⟩⟩ := resolves
    exact .number spelling
  | string isBody =>
    obtain ⟨resolves⟩ := resolves
    obtain ⟨text, isRead, rfl⟩ := Option.map_eq_some_iff.mp resolves
    exact .string (reads _ _ _ isBody isRead)
  | emptyArray blank =>
    obtain ⟨⟨⟩⟩ := resolves
    exact .emptyArray blank
  | array blank _ _ ihFirst ihOthers =>
    obtain ⟨resolves⟩ := resolves
    obtain ⟨items, areRead, rfl⟩ := Option.map_eq_some_iff.mp resolves
    obtain ⟨first, others, isFirst, areOthers, rfl⟩ := mapItemTexts?_cons_eq_some_iff.mp areRead
    exact .array blank (ihFirst (.value isFirst)) (ihOthers (.items areOthers))
  | emptyObject blank =>
    obtain ⟨⟨⟩⟩ := resolves
    exact .emptyObject blank
  | object blank name _ _ ihFirst ihOthers =>
    obtain ⟨resolves⟩ := resolves
    obtain ⟨members, areRead, rfl⟩ := Option.map_eq_some_iff.mp resolves
    obtain ⟨key, first, others, isKey, isFirst, areOthers, rfl⟩ :=
      mapMemberTexts?_cons_eq_some_iff.mp areRead
    exact .object blank (name.resolve reads isKey) (ihFirst (.value isFirst))
      (ihOthers (.members areOthers))
  | closeItems blank =>
    obtain _ | ⟨⟨⟩⟩ := resolves
    exact .closeItems blank
  | moreItems blankBefore blank _ _ ihFirst ihOthers =>
    obtain _ | ⟨resolves⟩ := resolves
    obtain ⟨first, others, isFirst, areOthers, rfl⟩ := mapItemTexts?_cons_eq_some_iff.mp resolves
    exact .moreItems blankBefore blank (ihFirst (.value isFirst)) (ihOthers (.items areOthers))
  | closeMembers blank =>
    obtain _ | _ | ⟨⟨⟩⟩ := resolves
    exact .closeMembers blank
  | moreMembers blankBefore blank name _ _ ihFirst ihOthers =>
    obtain _ | _ | ⟨resolves⟩ := resolves
    obtain ⟨key, first, others, isKey, isFirst, areOthers, rfl⟩ :=
      mapMemberTexts?_cons_eq_some_iff.mp resolves
    exact .moreMembers blankBefore blank (name.resolve reads isKey) (ihFirst (.value isFirst))
      (ihOthers (.members areOthers))

/-- What spells a part with its texts resolved spells one that it is resolved from. -/
theorem Spelling.exists_resolves
    (exists_read : ∀ body resolved, IsResolved body resolved →
      ∃ text, IsBody body text ∧ read? text = some resolved)
    {written : List Char} {resolved : Part Other}
    (spelling : Spelling IsResolved written resolved) :
    ∃ part, Spelling IsBody written part ∧ Resolves read? part resolved := by
  induction spelling with
  | null | boolTrue | boolFalse => exact ⟨_, by constructor, .value rfl⟩
  | number spelling => exact ⟨_, .number spelling, .value rfl⟩
  | string isBody =>
    obtain ⟨text, isBody, isRead⟩ := exists_read _ _ isBody
    exact ⟨_, .string isBody, .value (Option.map_eq_some_iff.mpr ⟨_, isRead, rfl⟩)⟩
  | emptyArray blank => exact ⟨_, .emptyArray blank, .value rfl⟩
  | array blank _ _ ihFirst ihOthers =>
    obtain ⟨_, first, ⟨isFirst⟩⟩ := ihFirst
    obtain ⟨_, others, _ | ⟨areOthers⟩⟩ := ihOthers
    have areItems := mapItemTexts?_cons_eq_some_iff.mpr ⟨_, _, isFirst, areOthers, rfl⟩
    exact ⟨_, .array blank first others, .value (Option.map_eq_some_iff.mpr ⟨_, areItems, rfl⟩)⟩
  | emptyObject blank => exact ⟨_, .emptyObject blank, .value rfl⟩
  | object blank name _ _ ihFirst ihOthers =>
    obtain ⟨isBody, blankBefore, blankAfter⟩ := name
    obtain ⟨key, isBody, isKey⟩ := exists_read _ _ isBody
    obtain ⟨_, first, ⟨isFirst⟩⟩ := ihFirst
    obtain ⟨_, others, _ | _ | ⟨areOthers⟩⟩ := ihOthers
    have areMembers := mapMemberTexts?_cons_eq_some_iff.mpr
      ⟨_, _, _, isKey, isFirst, areOthers, rfl⟩
    exact ⟨_, .object blank (.mk isBody blankBefore blankAfter) first others,
      .value (Option.map_eq_some_iff.mpr ⟨_, areMembers, rfl⟩)⟩
  | closeItems blank => exact ⟨_, .closeItems blank, .items rfl⟩
  | moreItems blankBefore blank _ _ ihFirst ihOthers =>
    obtain ⟨_, first, ⟨isFirst⟩⟩ := ihFirst
    obtain ⟨_, others, _ | ⟨areOthers⟩⟩ := ihOthers
    have areItems := mapItemTexts?_cons_eq_some_iff.mpr ⟨_, _, isFirst, areOthers, rfl⟩
    exact ⟨_, .moreItems blankBefore blank first others, .items areItems⟩
  | closeMembers blank => exact ⟨_, .closeMembers blank, .members rfl⟩
  | moreMembers blankBefore blank name _ _ ihFirst ihOthers =>
    obtain ⟨isBody, beforeColon, afterColon⟩ := name
    obtain ⟨key, isBody, isKey⟩ := exists_read _ _ isBody
    obtain ⟨_, first, ⟨isFirst⟩⟩ := ihFirst
    obtain ⟨_, others, _ | _ | ⟨areOthers⟩⟩ := ihOthers
    have areMembers := mapMemberTexts?_cons_eq_some_iff.mpr
      ⟨_, _, _, isKey, isFirst, areOthers, rfl⟩
    exact ⟨_, .moreMembers blankBefore blank (.mk isBody beforeColon afterColon) first others,
      .members areMembers⟩

end

theorem isEscaped_of_isSource (body : List Char) (source : Source) (text : String)
    (isSource : IsSource body source) (isRead : sourceText? source = some text) :
    IsEscaped body text := by
  obtain ⟨rfl, valid⟩ := isSource
  obtain ⟨resolved, isResolved, rfl⟩ := Option.map_eq_some_iff.mp isRead
  rw [IsEscaped, String.toList_ofList]
  exact escapes_of_unescape? valid isResolved

theorem exists_isSource_of_isEscaped (body : List Char) (text : String)
    (isEscaped : IsEscaped body text) :
    ∃ source, IsSource body source ∧ sourceText? source = some text := by
  have isResolved := Escapes.unescape? isEscaped
  exact ⟨body, ⟨rfl, Escapes.stringBody isEscaped⟩, by
    rw [sourceText?, isResolved, Option.map_some, String.ofList_toList]⟩

/-- A text has a value exactly if it spells it. -/
theorem value?_eq_some_iff (text : List Char) (value : Json String) :
    value? text = some value ↔ TextSpelling IsEscaped value text := by
  rw [value?, Option.bind_eq_some_iff]
  constructor
  · intro read
    obtain ⟨tree, isTree, isValue⟩ := read
    obtain ⟨blankBefore, spelling, blankAfter⟩ := (read?_eq_some_iff text tree).mp isTree
    exact .mk blankBefore (spelling.resolve isEscaped_of_isSource (.value isValue)) blankAfter
  · intro spelled
    obtain ⟨blankBefore, spelling, blankAfter⟩ := spelled
    obtain ⟨_, spelling, ⟨isValue⟩⟩ := spelling.exists_resolves exists_isSource_of_isEscaped
    exact ⟨_, (read?_eq_some_iff _ _).mpr (.mk blankBefore spelling blankAfter), isValue⟩

end SearchQuery.Json
