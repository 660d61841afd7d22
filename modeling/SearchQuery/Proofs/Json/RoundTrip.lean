import SearchQuery.Json.Writer
import SearchQuery.Proofs.Json.Grammar

/-!
# Values are read back

A value whose numbers are well spelled is read back from its written form in any layout
(`value?_chars`): in any layout, what is written is one of the texts that the grammar has for the
value (`spelling_chars`, by recursion on the value).
-/

set_option autoImplicit false

namespace SearchQuery.Json

/-- Whether all numbers of a value are spelled as the grammar wants them. -/
def isWellSpelled (value : Json String) : Bool :=
  allNumbers (fun numeral => decide numeral.WellSpelled) value

mutual

/-- A value taken apart, with its strings as they are written. -/
def spelled : Json String → Json Source
  | null => null
  | bool value => bool value
  | number value => number value
  | string value => string (escape value.toList)
  | array items => array (spelledItems items)
  | object members => object (spelledMembers members)

def spelledItems : List (Json String) → List (Json Source)
  | [] => []
  | item :: rest => spelled item :: spelledItems rest

def spelledMembers : List (String × Json String) → List (Source × Json Source)
  | [] => []
  | (key, value) :: rest => (escape key.toList, spelled value) :: spelledMembers rest

end

mutual

theorem mapTexts?_spelled (value : Json String) :
    mapTexts? sourceText? (spelled value) = some value := by
  cases value with
  | null => rfl
  | bool value => rfl
  | number value => rfl
  | string text => simp only [spelled, mapTexts?, sourceText?_escape, Option.map_some]
  | array items => simp only [spelled, mapTexts?, mapItemTexts?_spelled items, Option.map_some]
  | object members =>
    simp only [spelled, mapTexts?, mapMemberTexts?_spelled members, Option.map_some]

theorem mapItemTexts?_spelled (items : List (Json String)) :
    mapItemTexts? sourceText? (spelledItems items) = some items := by
  cases items with
  | nil => rfl
  | cons item rest =>
    simp only [spelledItems, mapItemTexts?, mapTexts?_spelled item, mapItemTexts?_spelled rest]

theorem mapMemberTexts?_spelled (members : List (String × Json String)) :
    mapMemberTexts? sourceText? (spelledMembers members) = some members := by
  cases members with
  | nil => rfl
  | cons member rest =>
    obtain ⟨key, value⟩ := member
    simp only [spelledMembers, mapMemberTexts?, sourceText?_escape, mapTexts?_spelled value,
      mapMemberTexts?_spelled rest]

end

/-!
## Written values
-/

theorem isSpace_of_mem_lineBreak {layout : Layout} {c : Char} (member : c ∈ layout.lineBreak) :
    isSpace c = true := by
  cases layout with
  | compact => cases member
  | indented depth =>
    obtain isFeed | isBlank := List.mem_cons.mp member
    · rw [isFeed]
      rfl
    · rw [(List.mem_replicate.mp isBlank).2]
      rfl

theorem isGap_lineBreak (layout : Layout) : IsGap layout.lineBreak :=
  fun _ member => isSpace_of_mem_lineBreak member

theorem exists_gap_colon (layout : Layout) : ∃ gap, IsGap gap ∧ layout.colon = ':' :: gap := by
  cases layout with
  | compact => exact ⟨[], isGap_nil, rfl⟩
  | indented depth => exact ⟨[' '], fun _ member => List.mem_singleton.mp member ▸ rfl, rfl⟩

theorem isSource_escape (text : List Char) : IsSource (escape text) (escape text) :=
  ⟨rfl, (escapes_escape text).stringBody⟩

theorem keySpelling_quotedChars (key : String) (layout : Layout) :
    KeySpelling IsSource (quotedChars key ++ layout.colon) (escape key.toList) := by
  obtain ⟨gap, blank, form⟩ := exists_gap_colon layout
  have spelling := @KeySpelling.mk _ IsSource _ [] gap _ (isSource_escape key.toList)
    isGap_nil blank
  rw [form]
  simpa [quotedChars] using spelling

mutual

/-- In any layout, a value is written as the grammar spells it. -/
theorem spelling_chars (layout : Layout) (value : Json String)
    (wellSpelled : isWellSpelled value = true) :
    Spelling IsSource (chars layout value) (.value (spelled value)) := by
  cases value with
  | null => exact .null
  | bool value =>
    cases value with
    | true => exact .boolTrue
    | false => exact .boolFalse
  | number numeral => exact .number (Numeral.spelling_chars (of_decide_eq_true wellSpelled))
  | string text => exact .string (isSource_escape text.toList)
  | array items =>
    cases items with
    | nil => exact @Spelling.emptyArray _ _ [] isGap_nil
    | cons item others =>
      obtain ⟨itemSpelled, othersSpelled⟩ := Bool.and_eq_true_iff.mp wellSpelled
      have spelling := Spelling.array (isGap_lineBreak layout.deeper)
        (spelling_chars layout.deeper item itemSpelled)
        (spelling_itemsChars layout others othersSpelled)
      simpa only [chars, spelled, spelledItems, List.append_assoc] using spelling
  | object members =>
    cases members with
    | nil => exact @Spelling.emptyObject _ _ [] isGap_nil
    | cons member others =>
      obtain ⟨key, value⟩ := member
      obtain ⟨valueSpelled, othersSpelled⟩ := Bool.and_eq_true_iff.mp wellSpelled
      have spelling := Spelling.object (isGap_lineBreak layout.deeper)
        (keySpelling_quotedChars key layout) (spelling_chars layout.deeper value valueSpelled)
        (spelling_membersChars layout others othersSpelled)
      simpa only [chars, spelled, spelledMembers, List.append_assoc] using spelling

theorem spelling_itemsChars (layout : Layout) (items : List (Json String))
    (wellSpelled : allItemNumbers (fun numeral => decide numeral.WellSpelled) items = true) :
    Spelling IsSource (itemsChars layout items) (.items (spelledItems items)) := by
  cases items with
  | nil => exact .closeItems (isGap_lineBreak layout)
  | cons item others =>
    obtain ⟨itemSpelled, othersSpelled⟩ := Bool.and_eq_true_iff.mp wellSpelled
    have spelling := @Spelling.moreItems _ _ [] _ _ _ _ _ isGap_nil
      (isGap_lineBreak layout.deeper) (spelling_chars layout.deeper item itemSpelled)
      (spelling_itemsChars layout others othersSpelled)
    simpa only [itemsChars, spelledItems, List.append_assoc, List.nil_append] using spelling

theorem spelling_membersChars (layout : Layout) (members : List (String × Json String))
    (wellSpelled : allMemberNumbers (fun numeral => decide numeral.WellSpelled) members = true) :
    Spelling IsSource (membersChars layout members) (.members (spelledMembers members)) := by
  cases members with
  | nil => exact .closeMembers (isGap_lineBreak layout)
  | cons member others =>
    obtain ⟨key, value⟩ := member
    obtain ⟨valueSpelled, othersSpelled⟩ := Bool.and_eq_true_iff.mp wellSpelled
    have spelling := @Spelling.moreMembers _ _ [] _ _ _ _ _ _ _ isGap_nil
      (isGap_lineBreak layout.deeper) (keySpelling_quotedChars key layout)
      (spelling_chars layout.deeper value valueSpelled)
      (spelling_membersChars layout others othersSpelled)
    simpa only [membersChars, spelledMembers, List.append_assoc, List.nil_append] using spelling

end

/-- A written value is taken apart, also with blanks behind it. -/
theorem read?_chars_append (layout : Layout) {value : Json String}
    (wellSpelled : isWellSpelled value = true) (gap : List Char)
    (blank : ∀ c ∈ gap, isSpace c = true) :
    read? (chars layout value ++ gap) = some (spelled value) := by
  apply (read?_eq_some_iff _ _).mpr
  exact @TextSpelling.mk _ _ _ [] _ gap isGap_nil
    (spelling_chars layout value wellSpelled) blank

theorem read?_chars (layout : Layout) {value : Json String}
    (wellSpelled : isWellSpelled value = true) :
    read? (chars layout value) = some (spelled value) := by
  have read := read?_chars_append layout wellSpelled [] (by simp)
  rwa [List.append_nil] at read

/-- A written value is read back, whatever its layout. -/
theorem value?_chars_append (layout : Layout) {value : Json String}
    (wellSpelled : isWellSpelled value = true) (gap : List Char)
    (blank : ∀ c ∈ gap, isSpace c = true) : value? (chars layout value ++ gap) = some value := by
  rw [value?, read?_chars_append layout wellSpelled gap blank]
  exact mapTexts?_spelled value

theorem value?_chars (layout : Layout) {value : Json String}
    (wellSpelled : isWellSpelled value = true) : value? (chars layout value) = some value := by
  rw [value?, read?_chars layout wellSpelled]
  exact mapTexts?_spelled value

/-- A text has a value if what it is read as is written like the value. -/
theorem value?_eq_some_of_chars {text : List Char} {value : Json String}
    (wellSpelled : isWellSpelled value = true)
    (same : (value? text).any (fun found =>
      isWellSpelled found && decide (chars .compact found = chars .compact value)) = true) :
    value? text = some value := by
  obtain ⟨found, isFound, check⟩ := (Option.any_eq_true _ _).mp same
  obtain ⟨foundWellSpelled, sameChars⟩ := Bool.and_eq_true_iff.mp check
  have isValue := value?_chars .compact foundWellSpelled
  rw [of_decide_eq_true sameChars, value?_chars .compact wellSpelled] at isValue
  rw [isFound, isValue]

/-!
## Tests of the numbers
-/

theorem allItemNumbers_iff (test : Numeral → Bool) (items : List (Json String)) :
    allItemNumbers test items = true ↔ ∀ item ∈ items, allNumbers test item = true := by
  induction items with
  | nil => simp [allItemNumbers]
  | cons item rest ih => simp [allItemNumbers, ih]

theorem allMemberNumbers_iff (test : Numeral → Bool) (members : List (String × Json String)) :
    allMemberNumbers test members = true ↔
      ∀ member ∈ members, allNumbers test member.2 = true := by
  induction members with
  | nil => simp [allMemberNumbers]
  | cons member rest ih => simp [allMemberNumbers, ih]

theorem allNumbers_array (test : Numeral → Bool) (items : List (Json String)) :
    allNumbers test (array items) = true ↔ ∀ item ∈ items, allNumbers test item = true :=
  allItemNumbers_iff test items

theorem allNumbers_object (test : Numeral → Bool) (members : List (String × Json String)) :
    allNumbers test (object members) = true ↔
      ∀ member ∈ members, allNumbers test member.2 = true :=
  allMemberNumbers_iff test members

theorem allNumbers_strings (test : Numeral → Bool) (texts : List String) :
    allNumbers test (array (texts.map string)) = true := by
  rw [allNumbers_array, List.forall_mem_map]
  exact fun _ _ => rfl

end SearchQuery.Json
