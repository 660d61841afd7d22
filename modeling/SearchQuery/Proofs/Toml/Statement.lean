import SearchQuery.Proofs.Toml.Number
import SearchQuery.Proofs.Toml.Text
import SearchQuery.Toml.Reader

/-!
# Lines are read back

A header, and an assignment of a string or of a natural number, are read back from a line of their
own if the name is written without quotes (`readStatements?_header`, `readStatements?_assign`).
Lines that are empty or comments are read, and give an empty table (`read?_comments`).
-/

set_option autoImplicit false

namespace SearchQuery.Toml

/-- A character with which a statement may start in a line. -/
def StartsStatement (c : Char) : Prop :=
  isSpace c = false ∧ c ≠ '#' ∧ c ≠ '\n' ∧ c ≠ '\r'

theorem startsStatement_of_isNameChar {c : Char} (isName : isNameChar c = true) :
    StartsStatement c := by
  refine ⟨?_, ?_, ?_, ?_⟩
  · rw [Bool.eq_false_iff]
    intro isBlank
    simp only [isSpace, Bool.or_eq_true, beq_iff_eq] at isBlank
    rcases isBlank with rfl | rfl
    · exact absurd isName (by decide)
    · exact absurd isName (by decide)
  all_goals
    rintro rfl
    exact absurd isName (by decide)

theorem skipSpace_visible {c : Char} (visible : isSpace c = false) (rest : List Char) :
    skipSpace (c :: rest) = c :: rest := by
  rw [skipSpace, List.dropWhile_cons, if_neg (by simp [visible])]

/-! ## Names without quotes -/

/-- A name that is written without quotes. -/
structure Bare (name : String) : Prop where
  notEmpty : name.toList ≠ []
  nameChars : ∀ c ∈ name.toList, isNameChar c = true

instance (name : String) : Decidable (Bare name) :=
  decidable_of_iff (name.toList ≠ [] ∧ name.toList.all isNameChar = true)
    ⟨fun both => ⟨both.1, List.all_eq_true.mp both.2⟩,
      fun bare => ⟨bare.notEmpty, List.all_eq_true.mpr bare.nameChars⟩⟩

theorem Bare.exists_cons {name : String} (bare : Bare name) :
    ∃ c rest, name.toList = c :: rest ∧ isNameChar c = true := by
  cases isList : name.toList with
  | nil => exact absurd isList bare.notEmpty
  | cons c rest => exact ⟨c, rest, rfl, bare.nameChars c (isList ▸ List.mem_cons_self)⟩

theorem Bare.head_ne {name : String} (bare : Bare name) {mark : Char}
    (notName : isNameChar mark = false) (rest more : List Char) :
    name.toList ++ rest ≠ mark :: more := by
  obtain ⟨c, others, isList, isName⟩ := bare.exists_cons
  intro same
  rw [isList] at same
  rw [(List.cons.inj same).1, notName] at isName
  exact Bool.false_ne_true isName

theorem readName?_bare {name : String} (bare : Bare name) {c : Char} (ends : isNameChar c = false)
    (rest : List Char) : readName? (name.toList ++ c :: rest) = some (name, c :: rest) := by
  have taken : (name.toList ++ c :: rest).takeWhile isNameChar = name.toList := by
    rw [List.takeWhile_append_of_pos bare.nameChars]
    simp [ends]
  have dropped : (name.toList ++ c :: rest).dropWhile isNameChar = c :: rest := by
    rw [List.dropWhile_append_of_pos bare.nameChars]
    simp [ends]
  rw [readName?.eq_3 _ (fun more => bare.head_ne (by decide) _ more)
    (fun more => bare.head_ne (by decide) _ more), taken, dropped]
  split
  · rename_i empty
    exact absurd empty bare.notEmpty
  · rw [String.ofList_toList]

theorem readKey?_bare {name : String} (bare : Bare name) {c : Char} (ends : isNameChar c = false)
    {rest unread : List Char} (skipped : skipSpace (c :: rest) = unread)
    (last : ∀ more, unread ≠ '.' :: more) (count : Nat) :
    readKey? (count + 1) (name.toList ++ c :: rest) = some (⟨[], name⟩, unread) := by
  rw [readKey?, readName?_bare bare ends]
  simp only [skipped]

theorem readStatement?_header {name : String} (bare : Bare name) (steps : Nat) (rest : List Char) :
    readStatement? steps ('[' :: (name.toList ++ ']' :: rest)) =
      some (.header ⟨[], name⟩, rest) := by
  obtain ⟨c, others, isList, isName⟩ := bare.exists_cons
  have visible : skipSpace (name.toList ++ ']' :: rest) = name.toList ++ ']' :: rest := by
    rw [isList, List.cons_append]
    exact skipSpace_visible (startsStatement_of_isNameChar isName).1 _
  have isKey : readKey? greatestKeyLength (name.toList ++ ']' :: rest) =
      some (⟨[], name⟩, ']' :: rest) :=
    readKey?_bare bare (by decide)
      (show skipSpace (']' :: rest) = ']' :: rest from rfl) (by simp) 79
  rw [readStatement?.eq_2 _ _ fun more => bare.head_ne (by decide) _ more, visible, isKey]
  rfl

theorem readStatement?_assign {name : String} (bare : Bare name) {steps : Nat}
    {text rest : List Char} {value : Value} (visible : skipSpace text = text)
    (isValue : readValue? steps greatestDepth text = some (value, rest)) :
    readStatement? steps (name.toList ++ ' ' :: '=' :: ' ' :: text) =
      some (.assign ⟨[], name⟩ value, rest) := by
  have isKey : readKey? greatestKeyLength (name.toList ++ ' ' :: '=' :: ' ' :: text) =
      some (⟨[], name⟩, '=' :: ' ' :: text) :=
    readKey?_bare bare (by decide)
      (show skipSpace (' ' :: '=' :: ' ' :: text) = '=' :: ' ' :: text from rfl) (by simp) 79
  have skipped : skipSpace (' ' :: text) = text := visible
  rw [readStatement?.eq_3 _ _ (fun more => bare.head_ne (by decide) _ _)
    (fun more => bare.head_ne (by decide) _ _), readAssignedKey?, isKey]
  simp only [skipped, isValue]
  rfl

/-! ## Values -/

theorem exists_cons_writeString (text : String) :
    ∃ quote rest, (writeString text).toList = quote :: rest ∧ (quote = '"' ∨ quote = '\'') := by
  rw [writeString, String.toList_ofList]
  cases formOf text.toList with
  | basic | longBasic => exact ⟨'"', _, rfl, .inl rfl⟩
  | literal | longLiteral => exact ⟨'\'', _, rfl, .inr rfl⟩

/-- A value that is read back from what is written for it, up to the end of the line. -/
structure WrittenValue (value : Value) (text : List Char) : Prop where
  visible : ∀ rest, skipSpace (text ++ rest) = text ++ rest
  isRead : ∀ steps depth rest,
    readValue? (steps + 1) depth (text ++ '\n' :: rest) = some (value, '\n' :: rest)

theorem writtenValue_string (text : String) :
    WrittenValue (.string text) (writeString text).toList := by
  obtain ⟨quote, others, isList, isQuote⟩ := exists_cons_writeString text
  refine ⟨fun rest => ?_, fun steps depth rest => ?_⟩
  · rw [isList, List.cons_append]
    refine skipSpace_visible ?_ _
    rcases isQuote with rfl | rfl
    · rfl
    · rfl
  · have isString := @readString?_writeString text ('\n' :: rest) (by simp [NoQuote])
      (by simp [NoQuote])
    rw [isList, List.cons_append] at isString ⊢
    rcases isQuote with rfl | rfl
    all_goals
      rw [readValue?, isString]
      simp only [Option.map_some, String.ofList_toList]

theorem isScalarChar_of_isDigit {c : Char} (isDigit : c.isDigit = true) :
    isScalarChar c = true := by
  rw [isScalarChar, List.all_eq_true]
  intro mark isMark
  rw [bne_iff_ne]
  rintro rfl
  simp only [List.mem_cons, List.not_mem_nil, or_false] at isMark
  rcases isMark with rfl | rfl | rfl | rfl | rfl | rfl | rfl | rfl | rfl | rfl | rfl
  all_goals exact absurd isDigit (by decide)

theorem scalar?_toDigits (n : Nat) : scalar? (Nat.toDigits 10 n) = some (.integer n) := by
  have noWord (word : List Char) {c : Char} (member : c ∈ word) (notDigit : c.isDigit = false) :
      Nat.toDigits 10 n ≠ word := by
    rintro rfl
    exact Bool.false_ne_true (notDigit.symm.trans (isDigit_of_mem member))
  have isTrue : Nat.toDigits 10 n ≠ ['t', 'r', 'u', 'e'] := noWord _ List.mem_cons_self rfl
  have isFalse : Nat.toDigits 10 n ≠ ['f', 'a', 'l', 's', 'e'] := noWord _ List.mem_cons_self rfl
  rw [scalar?, if_neg isTrue, if_neg isFalse, integer?_toDigits]

theorem takeScalar_toDigits (n : Nat) (rest : List Char) :
    takeScalar (Nat.toDigits 10 n ++ '\n' :: rest) = (Nat.toDigits 10 n, '\n' :: rest) := by
  have digits : ∀ c ∈ Nat.toDigits 10 n, isScalarChar c = true := fun c member =>
    isScalarChar_of_isDigit (isDigit_of_mem member)
  have taken : (Nat.toDigits 10 n ++ '\n' :: rest).takeWhile isScalarChar = Nat.toDigits 10 n := by
    rw [List.takeWhile_append_of_pos digits]
    exact List.append_nil _
  have dropped : (Nat.toDigits 10 n ++ '\n' :: rest).dropWhile isScalarChar = '\n' :: rest := by
    rw [List.dropWhile_append_of_pos digits]
    rfl
  rw [takeScalar, taken, dropped]
  rfl

theorem writtenValue_natural (n : Nat) : WrittenValue (.integer n) (Nat.toDigits 10 n) := by
  obtain ⟨c, others, isList⟩ := List.exists_cons_of_ne_nil (@Nat.toDigits_ne_nil n 10)
  have isDigit : c.isDigit = true := isDigit_of_mem (isList ▸ List.mem_cons_self)
  refine ⟨fun rest => ?_, fun steps depth rest => ?_⟩
  · rw [isList, List.cons_append]
    refine skipSpace_visible (Bool.eq_false_iff.mpr fun isBlank => ?_) _
    simp only [isSpace, Bool.or_eq_true, beq_iff_eq] at isBlank
    rcases isBlank with rfl | rfl
    all_goals exact absurd isDigit (by decide)
  · have scalar : readScalar? (Nat.toDigits 10 n ++ '\n' :: rest) =
        some (.integer n, '\n' :: rest) := by
      rw [readScalar?, takeScalar_toDigits]
      simp only [scalar?_toDigits, Option.map_some]
    rw [isList, List.cons_append] at scalar ⊢
    rw [readValue?, scalar]
    all_goals
      intro more same
      rw [(List.cons.inj same).1] at isDigit
      exact absurd isDigit (by decide)

/-! ## Lines -/

theorem endLine?_eq_none {c : Char} (starts : StartsStatement c) (rest : List Char) :
    endLine? (c :: rest) = none := by
  obtain ⟨visible, notComment, notLineFeed, notReturn⟩ := starts
  have noComment : skipComment (c :: rest) = c :: rest :=
    skipComment.eq_2 _ fun _ same => notComment (List.cons.inj same).1
  rw [endLine?, skipSpace_visible visible, noComment]
  exact dropBreak?.eq_3 _ (fun _ same => notLineFeed (List.cons.inj same).1)
    fun _ same => notReturn (List.cons.inj same).1

theorem readStatements?_blank (steps : Nat) (rest : List Char) :
    readStatements? (steps + 1) ('\n' :: rest) = readStatements? steps rest :=
  readStatements?.eq_3 _ steps (List.cons_ne_nil _ _)

theorem readStatements?_line {c : Char} (starts : StartsStatement c) {text rest : List Char}
    {statement : Statement} (isRead : readStatement? ((c :: text).length + 1) (c :: text) =
      some (statement, '\n' :: rest)) (steps : Nat) :
    readStatements? (steps + 1) (c :: text) =
      (readStatements? steps rest).map (statement :: ·) := by
  rw [readStatements?.eq_3 _ steps (List.cons_ne_nil _ _), endLine?_eq_none starts,
    skipSpace_visible starts.1, isRead]
  rfl

theorem readStatements?_header {name : String} (bare : Bare name) (steps : Nat)
    (rest : List Char) :
    readStatements? (steps + 1) ('[' :: (name.toList ++ ']' :: '\n' :: rest)) =
      (readStatements? steps rest).map (.header ⟨[], name⟩ :: ·) :=
  readStatements?_line ⟨rfl, by decide, by decide, by decide⟩
    (readStatement?_header bare _ _) steps

theorem readStatements?_assign {name : String} (bare : Bare name) {value : Value}
    {text : List Char} (written : WrittenValue value text) (steps : Nat) (rest : List Char) :
    readStatements? (steps + 1) (name.toList ++ ' ' :: '=' :: ' ' :: (text ++ '\n' :: rest)) =
      (readStatements? steps rest).map (.assign ⟨[], name⟩ value :: ·) := by
  obtain ⟨c, others, isList, isName⟩ := bare.exists_cons
  have isRead (enough : Nat) :=
    readStatement?_assign bare (written.visible _) (written.isRead enough greatestDepth rest)
  rw [isList, List.cons_append] at isRead ⊢
  exact readStatements?_line (startsStatement_of_isNameChar isName) (isRead _) steps

/-! ## Comments -/

/-- A line without a statement: it is empty, or a comment from its first character on. -/
structure CommentLine (line : List Char) : Prop where
  starts : ∀ c, line.head? = some c → c = '#'
  printable : ∀ c ∈ line, isPrintable c = true

theorem endLine?_comment {line : List Char} (comment : CommentLine line) (rest : List Char) :
    endLine? (line ++ '\n' :: rest) = some rest := by
  cases line with
  | nil => rfl
  | cons c text =>
    obtain rfl := comment.starts c rfl
    obtain ⟨_, printable⟩ := List.forall_mem_cons.mp comment.printable
    have skipped : (text ++ '\n' :: rest).dropWhile isPrintable = '\n' :: rest := by
      rw [List.dropWhile_append_of_pos printable]
      rfl
    have isComment : skipComment (skipSpace ('#' :: (text ++ '\n' :: rest))) = '\n' :: rest := by
      rw [skipSpace_visible rfl]
      exact skipped
    rw [endLine?, List.cons_append, isComment]
    rfl

theorem readStatements?_comments {lines : List (List Char)}
    (comments : ∀ line ∈ lines, CommentLine line) {steps : Nat} (enough : lines.length ≤ steps) :
    readStatements? steps (lines.flatMap (· ++ ['\n'])) = some [] := by
  induction lines generalizing steps with
  | nil => cases steps <;> rfl
  | cons line lines ih =>
    obtain ⟨comment, others⟩ := List.forall_mem_cons.mp comments
    have isText : (line :: lines).flatMap (· ++ ['\n']) =
        line ++ '\n' :: lines.flatMap (· ++ ['\n']) := by
      simp
    cases steps with
    | zero => cases enough
    | succ steps =>
      have notEmpty : line ++ '\n' :: lines.flatMap (· ++ ['\n']) ≠ [] := by simp
      rw [isText, readStatements?.eq_3 _ steps notEmpty, endLine?_comment comment]
      exact ih others (Nat.le_of_succ_le_succ enough)

theorem skipMark_comments {lines : List (List Char)}
    (comments : ∀ line ∈ lines, CommentLine line) :
    skipMark (lines.flatMap (· ++ ['\n'])) = lines.flatMap (· ++ ['\n']) := by
  cases lines with
  | nil => rfl
  | cons line lines =>
    obtain ⟨comment, _⟩ := List.forall_mem_cons.mp comments
    cases line with
    | nil => rfl
    | cons c text =>
      obtain rfl := comment.starts c rfl
      rfl

theorem read?_comments {lines : List (List Char)} (comments : ∀ line ∈ lines, CommentLine line) :
    read? (lines.flatMap (· ++ ['\n'])) = some Table.empty := by
  have enough : lines.length ≤ (lines.flatMap (· ++ ['\n'])).length + 1 := by
    clear comments
    induction lines with
    | nil => exact Nat.zero_le _
    | cons line lines ih =>
      simp only [List.flatMap_cons, List.length_append, List.length_cons, List.length_nil] at ih ⊢
      omega
  rw [read?, skipMark_comments comments, readStatements?_comments comments enough]
  rfl

end SearchQuery.Toml
