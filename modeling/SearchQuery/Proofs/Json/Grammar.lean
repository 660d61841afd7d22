import SearchQuery.Proofs.Json.Escape
import SearchQuery.Proofs.Json.Numeral

/-!
# The grammar of JSON texts

`Spelling` relates the texts of the JSON grammar to the trees that they spell, for any relation
between what stands between two quotes and the text of a key or a string. The reader takes a text
apart into a tree exactly if the text spells it, with its strings as they are written
(`read?_eq_some_iff`).

The grammar covers, besides values, what stands behind the first item of an array or the first
member of an object, up to and with the bracket that closes it. The reader has a function for each
of the three, so that both directions go case by case through the grammar.
-/

set_option autoImplicit false

namespace SearchQuery.Json

variable {Text : Type}

/-- Characters that may stand between any two parts of a JSON text. -/
def IsGap (gap : List Char) : Prop :=
  ∀ c ∈ gap, isSpace c = true

/-- A value, or the further items or members up to the bracket that closes them. -/
inductive Part (Text : Type) where
  | value (value : Json Text)
  | items (items : List (Json Text))
  | members (members : List (Text × Json Text))

/-- The spellings of a key, with the colon behind it and the gap up to the value. -/
inductive KeySpelling (IsBody : List Char → Text → Prop) : List Char → Text → Prop where
  | mk {body before after : List Char} {key : Text} :
      IsBody body key → IsGap before → IsGap after →
      KeySpelling IsBody ('"' :: (body ++ '"' :: (before ++ ':' :: after))) key

/-- The spellings of the parts of a JSON text. The relation says what may stand between two quotes
for a text. -/
inductive Spelling (IsBody : List Char → Text → Prop) : List Char → Part Text → Prop where
  | null : Spelling IsBody ['n', 'u', 'l', 'l'] (.value .null)
  | boolTrue : Spelling IsBody ['t', 'r', 'u', 'e'] (.value (.bool true))
  | boolFalse : Spelling IsBody ['f', 'a', 'l', 's', 'e'] (.value (.bool false))
  | number {numeral : Numeral} {text : List Char} :
      Numeral.Spelling numeral text → Spelling IsBody text (.value (.number numeral))
  | string {body : List Char} {text : Text} :
      IsBody body text → Spelling IsBody ('"' :: (body ++ ['"'])) (.value (.string text))
  | emptyArray {gap : List Char} :
      IsGap gap → Spelling IsBody ('[' :: (gap ++ [']'])) (.value (.array []))
  | array {gap first others : List Char} {item : Json Text} {items : List (Json Text)} :
      IsGap gap → Spelling IsBody first (.value item) → Spelling IsBody others (.items items) →
      Spelling IsBody ('[' :: (gap ++ (first ++ others))) (.value (.array (item :: items)))
  | emptyObject {gap : List Char} :
      IsGap gap → Spelling IsBody ('{' :: (gap ++ ['}'])) (.value (.object []))
  | object {gap name first others : List Char} {key : Text} {value : Json Text}
      {members : List (Text × Json Text)} :
      IsGap gap → KeySpelling IsBody name key → Spelling IsBody first (.value value) →
      Spelling IsBody others (.members members) →
      Spelling IsBody ('{' :: (gap ++ (name ++ (first ++ others))))
        (.value (.object ((key, value) :: members)))
  | closeItems {gap : List Char} :
      IsGap gap → Spelling IsBody (gap ++ [']']) (.items [])
  | moreItems {before gap first others : List Char} {item : Json Text}
      {items : List (Json Text)} :
      IsGap before → IsGap gap → Spelling IsBody first (.value item) →
      Spelling IsBody others (.items items) →
      Spelling IsBody (before ++ ',' :: (gap ++ (first ++ others))) (.items (item :: items))
  | closeMembers {gap : List Char} :
      IsGap gap → Spelling IsBody (gap ++ ['}']) (.members [])
  | moreMembers {before gap name first others : List Char} {key : Text} {value : Json Text}
      {members : List (Text × Json Text)} :
      IsGap before → IsGap gap → KeySpelling IsBody name key →
      Spelling IsBody first (.value value) → Spelling IsBody others (.members members) →
      Spelling IsBody (before ++ ',' :: (gap ++ (name ++ (first ++ others))))
        (.members ((key, value) :: members))

/-- The texts that spell a value, with gaps around it. -/
inductive TextSpelling (IsBody : List Char → Text → Prop) (value : Json Text) :
    List Char → Prop where
  | mk {before text after : List Char} :
      IsGap before → Spelling IsBody text (.value value) → IsGap after →
      TextSpelling IsBody value (before ++ (text ++ after))

/-- A body between quotes that is left as it is written. -/
def IsSource (body : List Char) (source : Source) : Prop :=
  body = source ∧ StringBody body

/-!
## Gaps
-/

theorem isGap_nil : IsGap [] :=
  fun _ member => absurd member List.not_mem_nil

theorem exists_gap_skipSpace (text : List Char) :
    ∃ gap, IsGap gap ∧ text = gap ++ skipSpace text :=
  ⟨text.takeWhile isSpace, fun _ member => List.mem_takeWhile_imp member,
    List.takeWhile_append_dropWhile.symm⟩

theorem skipSpace_append {gap rest : List Char} (blank : IsGap gap)
    (starts : ∀ c, rest.head? = some c → isSpace c = false) : skipSpace (gap ++ rest) = rest := by
  rw [skipSpace, List.dropWhile_append_of_pos blank]
  cases rest with
  | nil => rfl
  | cons c rest => rw [List.dropWhile_cons_of_neg (by rw [starts c rfl]; decide)]

theorem skipSpace_gap {gap : List Char} (blank : IsGap gap) {c : Char}
    (visible : isSpace c = false) (rest : List Char) :
    skipSpace (gap ++ c :: rest) = c :: rest := by
  apply skipSpace_append blank
  intro d isHead
  cases isHead
  exact visible

theorem ends_of_isSpace {c : Char} (isBlank : isSpace c = true) (rest : List Char) :
    Numeral.Ends (c :: rest) := by
  intro d isHead
  cases isHead
  simp only [isSpace, Bool.or_eq_true, beq_iff_eq] at isBlank
  obtain ((rfl | rfl) | rfl) | rfl := isBlank <;> decide

theorem ends_gap {gap : List Char} (blank : IsGap gap) {c : Char}
    (closes : c = ']' ∨ c = '}' ∨ c = ',') (rest : List Char) :
    Numeral.Ends (gap ++ c :: rest) := by
  cases gap with
  | nil =>
    intro d isHead
    cases isHead
    obtain rfl | rfl | rfl := closes <;> decide
  | cons d gap => exact ends_of_isSpace (blank d List.mem_cons_self) _

/-!
## The start of a part
-/

/-- A character with which a value may start. -/
def StartsValue (c : Char) : Prop :=
  isSpace c = false ∧ c ≠ ']' ∧ c ≠ '}'

theorem startsValue_of_isDigit {c : Char} (isDigit : c.isDigit = true) : StartsValue c := by
  refine ⟨?_, ?_, ?_⟩
  · cases blank : isSpace c with
    | false => rfl
    | true =>
      simp only [isSpace, Bool.or_eq_true, beq_iff_eq] at blank
      obtain ((rfl | rfl) | rfl) | rfl := blank <;> cases isDigit
  · rintro rfl
    cases isDigit
  · rintro rfl
    cases isDigit

variable {IsBody : List Char → Text → Prop}

theorem Spelling.exists_head {text : List Char} {value : Json Text}
    (spelling : Spelling IsBody text (.value value)) :
    ∃ c rest, text = c :: rest ∧ StartsValue c := by
  cases spelling with
  | number spelling =>
    obtain ⟨c, rest, form, rfl | isDigit⟩ := spelling.exists_head
    · exact ⟨'-', rest, form, by unfold StartsValue; decide⟩
    · exact ⟨c, rest, form, startsValue_of_isDigit isDigit⟩
  | null | boolTrue | boolFalse | string | emptyArray | array | emptyObject | object =>
    exact ⟨_, _, rfl, by unfold StartsValue; decide⟩

theorem Spelling.ends_items {text : List Char} {items : List (Json Text)}
    (spelling : Spelling IsBody text (.items items)) (rest : List Char) :
    Numeral.Ends (text ++ rest) := by
  cases spelling with
  | closeItems blank =>
    rw [List.append_assoc]
    exact ends_gap blank (.inl rfl) rest
  | moreItems blank _ _ _ =>
    rw [List.append_assoc]
    exact ends_gap blank (.inr (.inr rfl)) _

theorem Spelling.ends_members {text : List Char} {members : List (Text × Json Text)}
    (spelling : Spelling IsBody text (.members members)) (rest : List Char) :
    Numeral.Ends (text ++ rest) := by
  cases spelling with
  | closeMembers blank =>
    rw [List.append_assoc]
    exact ends_gap blank (.inr (.inl rfl)) rest
  | moreMembers blank _ _ _ _ =>
    rw [List.append_assoc]
    exact ends_gap blank (.inr (.inr rfl)) _

theorem Spelling.skipSpace_eq {text : List Char} {value : Json Text}
    (spelling : Spelling IsBody text (.value value)) {gap : List Char} (blank : IsGap gap)
    (rest : List Char) : skipSpace (gap ++ (text ++ rest)) = text ++ rest := by
  obtain ⟨c, others, rfl, visible, _⟩ := spelling.exists_head
  exact skipSpace_gap blank visible (others ++ rest)

/-!
## What is read is spelled
-/

theorem exists_spelling_of_readKey? {text rest : List Char} {key : Source}
    (read : readKey? text = some (key, rest)) :
    ∃ name, KeySpelling IsSource name key ∧ text = name ++ rest := by
  unfold readKey? at read
  split at read
  · rename_i text
    split at read
    · cases read
    · rename_i source afterKey isRead
      split at read
      · rename_i unread isColon
        cases read
        obtain ⟨valid, rfl⟩ := stringBody_of_readSource? isRead
        obtain ⟨before, blankBefore, splitBefore⟩ := exists_gap_skipSpace afterKey
        obtain ⟨after, blankAfter, splitAfter⟩ := exists_gap_skipSpace unread
        refine ⟨_, .mk ⟨rfl, valid⟩ blankBefore blankAfter, ?_⟩
        rw [isColon] at splitBefore
        generalize skipSpace unread = value at splitAfter ⊢
        rw [splitBefore, splitAfter]
        simp
      · cases read
  · cases read

/-- Whatever the reader takes off the front of a text in a number of steps is spelled there. -/
structure TakesSpelled (steps : Nat) : Prop where
  value : ∀ {text rest : List Char} {value : Json Source},
    readValue? steps text = some (value, rest) →
    ∃ first, Spelling IsSource first (.value value) ∧ text = first ++ rest
  items : ∀ {text rest : List Char} {items : List (Json Source)},
    readItems? steps text = some (items, rest) →
    ∃ others, Spelling IsSource others (.items items) ∧ text = others ++ rest
  members : ∀ {text rest : List Char} {members : List (Source × Json Source)},
    readMembers? steps text = some (members, rest) →
    ∃ others, Spelling IsSource others (.members members) ∧ text = others ++ rest

section

variable {steps : Nat} {text rest : List Char}

theorem TakesSpelled.value_succ (takes : TakesSpelled steps) {value : Json Source}
    (read : readValue? (steps + 1) text = some (value, rest)) :
    ∃ first, Spelling IsSource first (.value value) ∧ text = first ++ rest := by
  unfold readValue? at read
  split at read
  · cases read
    exact ⟨_, .null, rfl⟩
  · cases read
    exact ⟨_, .boolTrue, rfl⟩
  · cases read
    exact ⟨_, .boolFalse, rfl⟩
  · obtain ⟨⟨source, unread⟩, isRead, same⟩ := Option.map_eq_some_iff.mp read
    cases same
    obtain ⟨valid, rfl⟩ := stringBody_of_readSource? isRead
    exact ⟨_, .string ⟨rfl, valid⟩, by simp⟩
  · rename_i text
    obtain ⟨gap, blank, splitGap⟩ := exists_gap_skipSpace text
    split at read
    · rename_i closed
      cases read
      rw [closed] at splitGap
      exact ⟨_, .emptyArray blank, by rw [splitGap]; simp⟩
    · split at read
      · cases read
      · rename_i item afterItem isItem
        obtain ⟨⟨items, unread⟩, areItems, same⟩ := Option.map_eq_some_iff.mp read
        cases same
        obtain ⟨first, spelling, splitFirst⟩ := takes.value isItem
        obtain ⟨others, later, rfl⟩ := takes.items areItems
        exact ⟨_, .array blank spelling later, by rw [splitGap, splitFirst]; simp⟩
  · rename_i text
    obtain ⟨gap, blank, splitGap⟩ := exists_gap_skipSpace text
    split at read
    · rename_i closed
      cases read
      rw [closed] at splitGap
      exact ⟨_, .emptyObject blank, by rw [splitGap]; simp⟩
    · split at read
      · cases read
      · rename_i key afterKey isKey
        split at read
        · cases read
        · rename_i value afterValue isValue
          obtain ⟨⟨members, unread⟩, areMembers, same⟩ := Option.map_eq_some_iff.mp read
          cases same
          obtain ⟨name, nameSpelling, splitName⟩ := exists_spelling_of_readKey? isKey
          obtain ⟨first, spelling, rfl⟩ := takes.value isValue
          obtain ⟨others, later, rfl⟩ := takes.members areMembers
          exact ⟨_, .object blank nameSpelling spelling later,
            by rw [splitGap, splitName]; simp⟩
  · obtain ⟨⟨numeral, unread⟩, isRead, same⟩ := Option.map_eq_some_iff.mp read
    cases same
    obtain ⟨first, spelling, rfl⟩ := Numeral.exists_spelling_of_read? isRead
    exact ⟨first, .number spelling, rfl⟩

theorem TakesSpelled.items_succ (takes : TakesSpelled steps) {items : List (Json Source)}
    (read : readItems? (steps + 1) text = some (items, rest)) :
    ∃ others, Spelling IsSource others (.items items) ∧ text = others ++ rest := by
  obtain ⟨before, blankBefore, splitBefore⟩ := exists_gap_skipSpace text
  unfold readItems? at read
  split at read
  · rename_i closed
    cases read
    rw [closed] at splitBefore
    exact ⟨_, .closeItems blankBefore, by rw [splitBefore]; simp⟩
  · rename_i afterComma isComma
    obtain ⟨gap, blank, splitGap⟩ := exists_gap_skipSpace afterComma
    split at read
    · cases read
    · rename_i item afterItem isItem
      obtain ⟨⟨items, unread⟩, areItems, same⟩ := Option.map_eq_some_iff.mp read
      cases same
      obtain ⟨first, spelling, splitFirst⟩ := takes.value isItem
      obtain ⟨others, later, rfl⟩ := takes.items areItems
      rw [isComma, splitGap, splitFirst] at splitBefore
      exact ⟨_, .moreItems blankBefore blank spelling later, by rw [splitBefore]; simp⟩
  · cases read

theorem TakesSpelled.members_succ (takes : TakesSpelled steps)
    {members : List (Source × Json Source)}
    (read : readMembers? (steps + 1) text = some (members, rest)) :
    ∃ others, Spelling IsSource others (.members members) ∧ text = others ++ rest := by
  obtain ⟨before, blankBefore, splitBefore⟩ := exists_gap_skipSpace text
  unfold readMembers? at read
  split at read
  · rename_i closed
    cases read
    rw [closed] at splitBefore
    exact ⟨_, .closeMembers blankBefore, by rw [splitBefore]; simp⟩
  · rename_i afterComma isComma
    obtain ⟨gap, blank, splitGap⟩ := exists_gap_skipSpace afterComma
    split at read
    · cases read
    · rename_i key afterKey isKey
      split at read
      · cases read
      · rename_i value afterValue isValue
        obtain ⟨⟨members, unread⟩, areMembers, same⟩ := Option.map_eq_some_iff.mp read
        cases same
        obtain ⟨name, nameSpelling, splitName⟩ := exists_spelling_of_readKey? isKey
        obtain ⟨first, spelling, rfl⟩ := takes.value isValue
        obtain ⟨others, later, rfl⟩ := takes.members areMembers
        rw [isComma, splitGap, splitName] at splitBefore
        exact ⟨_, .moreMembers blankBefore blank nameSpelling spelling later,
          by rw [splitBefore]; simp⟩
  · cases read

theorem takesSpelled (steps : Nat) : TakesSpelled steps := by
  induction steps with
  | zero =>
    constructor
    · intro text rest value read
      cases read
    · intro text rest items read
      cases read
    · intro text rest members read
      cases read
  | succ steps ih => exact ⟨ih.value_succ, ih.items_succ, ih.members_succ⟩

end

/-!
## What is spelled is read
-/

theorem KeySpelling.readKey?_append {name : List Char} {key : Source}
    (nameSpelling : KeySpelling IsSource name key) {first : List Char} {value : Json Source}
    (spelling : Spelling IsSource first (.value value)) (rest : List Char) :
    readKey? (name ++ (first ++ rest)) = some (key, first ++ rest) := by
  obtain ⟨⟨rfl, valid⟩, blankBefore, blankAfter⟩ := nameSpelling
  simp only [List.cons_append, List.append_assoc]
  rw [readKey?, valid.readSource?]
  simp only [skipSpace_gap blankBefore (show isSpace ':' = false from rfl),
    spelling.skipSpace_eq blankAfter]

theorem KeySpelling.skipSpace_eq {name : List Char} {key : Text}
    (nameSpelling : KeySpelling IsBody name key) {gap : List Char} (blank : IsGap gap)
    (rest : List Char) : skipSpace (gap ++ (name ++ rest)) = name ++ rest := by
  obtain ⟨_, _, _⟩ := nameSpelling
  exact skipSpace_gap blank rfl _

theorem readValue?_number (steps : Nat) {c : Char} (starts : c = '-' ∨ c.isDigit = true)
    (text : List Char) :
    readValue? (steps + 1) (c :: text) =
      (Numeral.read? (c :: text)).map fun (numeral, unread) => (number numeral, unread) := by
  have notOther : c ≠ 'n' ∧ c ≠ 't' ∧ c ≠ 'f' ∧ c ≠ '"' ∧ c ≠ '[' ∧ c ≠ '{' := by
    obtain rfl | isDigit := starts
    · decide
    · refine ⟨?_, ?_, ?_, ?_, ?_, ?_⟩ <;> rintro rfl <;> cases isDigit
  obtain ⟨notNull, notTrue, notFalse, notQuote, notArray, notObject⟩ := notOther
  rw [readValue?] <;> simp [notNull, notTrue, notFalse, notQuote, notArray, notObject]

theorem readValue?_array {steps : Nat} {text after unread : List Char} {item : Json Source}
    {items : List (Json Source)} (notClosed : ∀ rest, skipSpace text ≠ ']' :: rest)
    (first : readValue? steps (skipSpace text) = some (item, after))
    (others : readItems? steps after = some (items, unread)) :
    readValue? (steps + 1) ('[' :: text) = some (array (item :: items), unread) := by
  simp only [readValue?, first, others, Option.map_some]

theorem readValue?_object {steps : Nat} {text afterKey after unread : List Char} {key : Source}
    {value : Json Source} {members : List (Source × Json Source)}
    (notClosed : ∀ rest, skipSpace text ≠ '}' :: rest)
    (name : readKey? (skipSpace text) = some (key, afterKey))
    (first : readValue? steps afterKey = some (value, after))
    (others : readMembers? steps after = some (members, unread)) :
    readValue? (steps + 1) ('{' :: text) = some (object ((key, value) :: members), unread) := by
  simp only [readValue?, name, first, others, Option.map_some]

theorem readItems?_more {steps : Nat} {text start after unread : List Char} {item : Json Source}
    {items : List (Json Source)} (more : skipSpace text = ',' :: start)
    (first : readValue? steps (skipSpace start) = some (item, after))
    (others : readItems? steps after = some (items, unread)) :
    readItems? (steps + 1) text = some (item :: items, unread) := by
  simp only [readItems?, more, first, others, Option.map_some]

theorem readMembers?_more {steps : Nat} {text start afterKey after unread : List Char}
    {key : Source} {value : Json Source} {members : List (Source × Json Source)}
    (more : skipSpace text = ',' :: start)
    (name : readKey? (skipSpace start) = some (key, afterKey))
    (first : readValue? steps afterKey = some (value, after))
    (others : readMembers? steps after = some (members, unread)) :
    readMembers? (steps + 1) text = some ((key, value) :: members, unread) := by
  simp only [readMembers?, more, name, first, others, Option.map_some]

/-- The reader takes a part of the grammar off the front of a text. Behind a value stands nothing
that a number would go on with. -/
def IsTaken (steps : Nat) (text rest : List Char) : Part Source → Prop
  | .value value => Numeral.Ends rest → readValue? steps (text ++ rest) = some (value, rest)
  | .items items => readItems? steps (text ++ rest) = some (items, rest)
  | .members members => readMembers? steps (text ++ rest) = some (members, rest)

theorem Spelling.length_pos {text : List Char} {part : Part Text}
    (spelling : Spelling IsBody text part) : 0 < text.length := by
  cases spelling with
  | number spelling =>
    obtain ⟨c, rest, rfl, _⟩ := spelling.exists_head
    exact Nat.succ_pos _
  | closeItems | closeMembers | moreItems | moreMembers =>
    simp only [List.length_append, List.length_cons]
    omega
  | null | boolTrue | boolFalse | string | emptyArray | array | emptyObject | object =>
    exact Nat.succ_pos _

/-- Every step of the reader takes a character, so as many steps as a text has characters are
enough. -/
theorem Spelling.isTaken {steps : Nat} {text : List Char} {part : Part Source}
    (spelling : Spelling IsSource text part) (enough : text.length ≤ steps) (rest : List Char) :
    IsTaken steps text rest part := by
  induction steps generalizing text part rest with
  | zero => exact absurd spelling.length_pos (Nat.not_lt.mpr enough)
  | succ steps ih =>
    cases spelling with
    | null | boolTrue | boolFalse => exact fun _ => rfl
    | number spelling =>
      intro ends
      have read := Numeral.read?_of_spelling spelling ends
      obtain ⟨c, others, rfl, starts⟩ := spelling.exists_head
      refine (readValue?_number steps starts (others ++ rest)).trans ?_
      rw [← List.cons_append, read]
      rfl
    | string isBody =>
      obtain ⟨rfl, valid⟩ := isBody
      intro _
      simp only [List.cons_append, List.append_assoc, List.nil_append, readValue?,
        valid.readSource?, Option.map_some]
    | emptyArray blank =>
      have closed := skipSpace_gap blank (show isSpace ']' = false from rfl) rest
      intro _
      simp only [List.cons_append, List.append_assoc, List.nil_append, readValue?, closed]
    | @array _ _ otherTexts item items blank first others =>
      simp only [List.length_cons, List.length_append] at enough
      have start := first.skipSpace_eq blank (otherTexts ++ rest)
      intro _
      simp only [List.cons_append, List.append_assoc]
      refine readValue?_array (fun unread closed => ?_)
        (start.symm ▸ ih first (by omega) _ (others.ends_items rest)) (ih others (by omega) rest)
      obtain ⟨c, written, rfl, _, notClosed, _⟩ := first.exists_head
      rw [start] at closed
      exact notClosed (List.cons.inj closed).1
    | emptyObject blank =>
      have closed := skipSpace_gap blank (show isSpace '}' = false from rfl) rest
      intro _
      simp only [List.cons_append, List.append_assoc, List.nil_append, readValue?, closed]
    | @object _ _ firstText otherTexts _ _ _ blank name first others =>
      simp only [List.length_cons, List.length_append] at enough
      have start := name.skipSpace_eq blank (firstText ++ (otherTexts ++ rest))
      intro _
      simp only [List.cons_append, List.append_assoc]
      refine readValue?_object (fun unread closed => ?_)
        (start.symm ▸ name.readKey?_append first _)
        (ih first (by omega) _ (others.ends_members rest)) (ih others (by omega) rest)
      obtain ⟨_, _, _⟩ := name
      rw [start] at closed
      cases closed
    | closeItems blank =>
      have closed := skipSpace_gap blank (show isSpace ']' = false from rfl) rest
      simp only [IsTaken, List.append_assoc, List.cons_append, List.nil_append, readItems?, closed]
    | @moreItems _ gap firstText otherTexts _ _ blankBefore blank first others =>
      simp only [List.length_cons, List.length_append] at enough
      have more := skipSpace_gap blankBefore (show isSpace ',' = false from rfl)
        (gap ++ (firstText ++ (otherTexts ++ rest)))
      have start := first.skipSpace_eq blank (otherTexts ++ rest)
      simp only [IsTaken, List.append_assoc, List.cons_append]
      exact readItems?_more more (start.symm ▸ ih first (by omega) _ (others.ends_items rest))
        (ih others (by omega) rest)
    | closeMembers blank =>
      have closed := skipSpace_gap blank (show isSpace '}' = false from rfl) rest
      simp only [IsTaken, List.append_assoc, List.cons_append, List.nil_append, readMembers?,
        closed]
    | @moreMembers _ gap nameText firstText otherTexts _ _ _ blankBefore blank name first others =>
      simp only [List.length_cons, List.length_append] at enough
      have more := skipSpace_gap blankBefore (show isSpace ',' = false from rfl)
        (gap ++ (nameText ++ (firstText ++ (otherTexts ++ rest))))
      have start := name.skipSpace_eq blank (firstText ++ (otherTexts ++ rest))
      simp only [IsTaken, List.append_assoc, List.cons_append]
      exact readMembers?_more more (start.symm ▸ name.readKey?_append first _)
        (ih first (by omega) _ (others.ends_members rest)) (ih others (by omega) rest)

theorem ends_of_isGap {gap : List Char} (blank : IsGap gap) : Numeral.Ends gap := by
  cases gap with
  | nil => exact fun _ isHead => nomatch isHead
  | cons c gap => exact ends_of_isSpace (blank c List.mem_cons_self) gap

theorem isGap_of_skipSpace {text : List Char} (nothing : skipSpace text = []) : IsGap text := by
  obtain ⟨gap, blank, split⟩ := exists_gap_skipSpace text
  rw [nothing, List.append_nil] at split
  exact split ▸ blank

theorem skipSpace_of_isGap {gap : List Char} (blank : IsGap gap) : skipSpace gap = [] := by
  have skipped := @skipSpace_append gap [] blank (fun _ isHead => nomatch isHead)
  rwa [List.append_nil] at skipped

/-- A text is taken apart into a tree exactly if it spells it. -/
theorem read?_eq_some_iff (text : List Char) (tree : Json Source) :
    read? text = some tree ↔ TextSpelling IsSource tree text := by
  constructor
  · intro read
    obtain ⟨before, blankBefore, splitBefore⟩ := exists_gap_skipSpace text
    unfold read? at read
    split at read
    · rename_i value unread isValue
      split at read
      · rename_i nothing
        cases read
        obtain ⟨written, spelling, splitValue⟩ := (takesSpelled _).value isValue
        rw [splitBefore, splitValue]
        exact .mk blankBefore spelling (isGap_of_skipSpace (List.isEmpty_iff.mp nothing))
      · cases read
    · cases read
  · intro spelled
    obtain @⟨before, written, after, blankBefore, spelling, blankAfter⟩ := spelled
    have enough : written.length ≤ (before ++ (written ++ after)).length + 1 := by
      simp only [List.length_append]
      omega
    have taken : readValue? _ (written ++ after) = some (tree, after) :=
      spelling.isTaken enough after (ends_of_isGap blankAfter)
    rw [read?, spelling.skipSpace_eq blankBefore, taken]
    simp only [skipSpace_of_isGap blankAfter, List.isEmpty_nil, if_true]

end SearchQuery.Json
