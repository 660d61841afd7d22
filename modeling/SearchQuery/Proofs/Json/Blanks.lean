import SearchQuery.Proofs.Json.RoundTrip

/-!
# Blanks between the parts of a value

The layouts of a value differ in nothing but blanks outside of its strings: without these, what is
written in any layout is what is written on one line (`withoutBlanks_chars`). Blanks in a string are
kept, and a quote behind a backslash does not end a string, so the deletion has to know at every
character where it stands.
-/

set_option autoImplicit false

namespace SearchQuery.Json

open SearchQuery.Text (hexDigit)

/-- Where a character of a JSON text stands. -/
inductive Place where
  | outside
  | inString
  /-- In a string, right behind a backslash that starts an escape. -/
  | escaped
  deriving DecidableEq, Repr

/-- A JSON text without the blanks that stand outside of its strings. -/
def withoutBlanks : Place → List Char → List Char
  | _, [] => []
  | .outside, c :: rest =>
    if isSpace c then withoutBlanks .outside rest
    else c :: withoutBlanks (if c = '"' then .inString else .outside) rest
  | .inString, c :: rest =>
    c :: withoutBlanks (if c = '"' then .outside else if c = '\\' then .escaped else .inString) rest
  | .escaped, c :: rest => c :: withoutBlanks .inString rest

theorem withoutBlanks_blank (gap : List Char) (blank : ∀ c ∈ gap, isSpace c = true)
    (rest : List Char) :
    withoutBlanks .outside (gap ++ rest) = withoutBlanks .outside rest := by
  induction gap with
  | nil => rfl
  | cons c gap ih =>
    rw [List.cons_append, withoutBlanks, if_pos (blank c List.mem_cons_self)]
    exact ih fun d member => blank d (List.mem_cons_of_mem _ member)

theorem withoutBlanks_visible (text : List Char)
    (visible : ∀ c ∈ text, isSpace c = false ∧ c ≠ '"') (rest : List Char) :
    withoutBlanks .outside (text ++ rest) = text ++ withoutBlanks .outside rest := by
  induction text with
  | nil => rfl
  | cons c text ih =>
    obtain ⟨notBlank, notQuote⟩ := visible c List.mem_cons_self
    rw [List.cons_append, withoutBlanks, if_neg (by rw [notBlank]; decide), if_neg notQuote,
      ih fun d member => visible d (List.mem_cons_of_mem _ member)]
    rfl

/-!
## Strings
-/

theorem withoutBlanks_inString {c : Char} (notQuote : c ≠ '"') (notBackslash : c ≠ '\\')
    (rest : List Char) :
    withoutBlanks .inString (c :: rest) = c :: withoutBlanks .inString rest := by
  rw [withoutBlanks, if_neg notQuote, if_neg notBackslash]

theorem hexDigit_in_string : ∀ n < 16, hexDigit n ≠ '"' ∧ hexDigit n ≠ '\\' := by
  decide

theorem withoutBlanks_escapeChar (c : Char) (rest : List Char) :
    withoutBlanks .inString (escapeChar c ++ rest) =
      escapeChar c ++ withoutBlanks .inString rest := by
  rcases escapeChar_cases c with ⟨letter, _, form⟩ | ⟨control, form⟩ |
    ⟨notQuote, notBackslash, _, form⟩
  · rw [form]
    rfl
  · have high := hexDigit_in_string (c.toNat / 16) (by omega)
    have low := hexDigit_in_string (c.toNat % 16) (by omega)
    have digits := (withoutBlanks_inString high.1 high.2 _).trans
      (congrArg _ (withoutBlanks_inString low.1 low.2 rest))
    rw [form]
    exact congrArg (['\\', 'u', '0', '0'] ++ ·) digits
  · rw [form]
    exact withoutBlanks_inString notQuote notBackslash rest

theorem withoutBlanks_escape (text rest : List Char) :
    withoutBlanks .inString (escape text ++ '"' :: rest) =
      escape text ++ '"' :: withoutBlanks .outside rest := by
  induction text with
  | nil => rfl
  | cons c text ih =>
    have split : escape (c :: text) = escapeChar c ++ escape text := List.flatMap_cons
    rw [split, List.append_assoc, withoutBlanks_escapeChar, ih, List.append_assoc]

theorem withoutBlanks_quotedChars (text : String) (rest : List Char) :
    withoutBlanks .outside (quotedChars text ++ rest) =
      quotedChars text ++ withoutBlanks .outside rest := by
  have form (tail : List Char) : quotedChars text ++ tail =
      '"' :: (escape text.toList ++ '"' :: tail) := by
    simp [quotedChars]
  rw [form, form, ← withoutBlanks_escape]
  rfl

/-!
## Numbers
-/

theorem visible_of_isDigit {c : Char} (isDigit : c.isDigit = true) :
    isSpace c = false ∧ c ≠ '"' := by
  refine ⟨(startsValue_of_isDigit isDigit).1, ?_⟩
  rintro rfl
  cases isDigit

theorem visible_of_mem_numeral {numeral : Numeral} (spelled : numeral.WellSpelled) :
    ∀ c ∈ numeral.chars, isSpace c = false ∧ c ≠ '"' := by
  intro c member
  rw [Numeral.chars_eq] at member
  rcases List.mem_append.mp member with isSign | member
  · cases negative : numeral.negative with
    | false =>
      rw [negative] at isSign
      cases isSign
    | true =>
      rw [negative] at isSign
      rw [List.mem_singleton.mp isSign]
      decide
  rcases List.mem_append.mp member with isWhole | member
  · exact visible_of_isDigit (spelled.whole c isWhole)
  rcases List.mem_append.mp member with inFraction | inExponent
  · unfold Numeral.fractionChars at inFraction
    split at inFraction
    · cases inFraction
    · rcases List.mem_cons.mp inFraction with rfl | isDigit
      · decide
      · exact visible_of_isDigit (spelled.fraction c isDigit)
  · cases power : numeral.exponent with
    | none =>
      rw [power] at inExponent
      cases inExponent
    | some power' =>
      rw [power] at inExponent
      have digits := (spelled.exponent power' power).2
      obtain ⟨negative, exponent⟩ := power'
      simp only [Numeral.exponentChars, List.cons_append, List.mem_cons, List.mem_append]
        at inExponent
      rcases inExponent with rfl | isSign | isDigit
      · decide
      · cases negative with
        | false => cases isSign
        | true =>
          rw [List.mem_singleton.mp isSign]
          decide
      · exact visible_of_isDigit (digits c isDigit)

/-!
## Values
-/

theorem withoutBlanks_lineBreak (layout : Layout) (rest : List Char) :
    withoutBlanks .outside (layout.lineBreak ++ rest) = withoutBlanks .outside rest :=
  withoutBlanks_blank _ (fun _ member => isSpace_of_mem_lineBreak member) rest

theorem withoutBlanks_mark {c : Char} (visible : isSpace c = false ∧ c ≠ '"') (rest : List Char) :
    withoutBlanks .outside (c :: rest) = c :: withoutBlanks .outside rest :=
  withoutBlanks_visible [c] (fun _ member => List.mem_singleton.mp member ▸ visible) rest

theorem withoutBlanks_colon (layout : Layout) (rest : List Char) :
    withoutBlanks .outside (layout.colon ++ rest) = ':' :: withoutBlanks .outside rest := by
  cases layout with
  | compact => exact withoutBlanks_mark (by decide) rest
  | indented depth =>
    exact (withoutBlanks_mark (by decide) (' ' :: rest)).trans
      (congrArg _ (withoutBlanks_blank [' '] (by simp [isSpace]) rest))

mutual

/-- Without the blanks outside of its strings, a value is written as on one line. -/
theorem withoutBlanks_chars (layout : Layout) (value : Json String)
    (wellSpelled : isWellSpelled value = true) (rest : List Char) :
    withoutBlanks .outside (chars layout value ++ rest) =
      chars .compact value ++ withoutBlanks .outside rest := by
  cases value with
  | null => exact withoutBlanks_visible ['n', 'u', 'l', 'l'] (by simp [isSpace]) rest
  | bool value =>
    cases value with
    | false => exact withoutBlanks_visible ['f', 'a', 'l', 's', 'e'] (by simp [isSpace]) rest
    | true => exact withoutBlanks_visible ['t', 'r', 'u', 'e'] (by simp [isSpace]) rest
  | number numeral =>
    exact withoutBlanks_visible _ (visible_of_mem_numeral (of_decide_eq_true wellSpelled)) rest
  | string text => exact withoutBlanks_quotedChars text rest
  | array items =>
    cases items with
    | nil => exact withoutBlanks_visible ['[', ']'] (by simp [isSpace]) rest
    | cons item others =>
      obtain ⟨itemSpelled, othersSpelled⟩ := Bool.and_eq_true_iff.mp wellSpelled
      simp only [chars, List.cons_append, List.append_assoc]
      rw [withoutBlanks_mark (by decide), withoutBlanks_lineBreak,
        withoutBlanks_chars layout.deeper item itemSpelled,
        withoutBlanks_itemsChars layout others othersSpelled]
      rfl
  | object members =>
    cases members with
    | nil => exact withoutBlanks_visible ['{', '}'] (by simp [isSpace]) rest
    | cons member others =>
      obtain ⟨key, value⟩ := member
      obtain ⟨valueSpelled, othersSpelled⟩ := Bool.and_eq_true_iff.mp wellSpelled
      simp only [chars, List.cons_append, List.append_assoc]
      rw [withoutBlanks_mark (by decide), withoutBlanks_lineBreak, withoutBlanks_quotedChars,
        withoutBlanks_colon, withoutBlanks_chars layout.deeper value valueSpelled,
        withoutBlanks_membersChars layout others othersSpelled]
      rfl

theorem withoutBlanks_itemsChars (layout : Layout) (items : List (Json String))
    (wellSpelled : allItemNumbers (fun numeral => decide numeral.WellSpelled) items = true)
    (rest : List Char) :
    withoutBlanks .outside (itemsChars layout items ++ rest) =
      itemsChars .compact items ++ withoutBlanks .outside rest := by
  cases items with
  | nil =>
    rw [itemsChars, List.append_assoc, withoutBlanks_lineBreak]
    exact withoutBlanks_mark (show isSpace ']' = false ∧ ']' ≠ '"' by decide) rest
  | cons item others =>
    obtain ⟨itemSpelled, othersSpelled⟩ := Bool.and_eq_true_iff.mp wellSpelled
    simp only [itemsChars, List.cons_append, List.append_assoc]
    rw [withoutBlanks_mark (by decide), withoutBlanks_lineBreak,
      withoutBlanks_chars layout.deeper item itemSpelled,
      withoutBlanks_itemsChars layout others othersSpelled]
    rfl

theorem withoutBlanks_membersChars (layout : Layout) (members : List (String × Json String))
    (wellSpelled : allMemberNumbers (fun numeral => decide numeral.WellSpelled) members = true)
    (rest : List Char) :
    withoutBlanks .outside (membersChars layout members ++ rest) =
      membersChars .compact members ++ withoutBlanks .outside rest := by
  cases members with
  | nil =>
    rw [membersChars, List.append_assoc, withoutBlanks_lineBreak]
    exact withoutBlanks_mark (show isSpace '}' = false ∧ '}' ≠ '"' by decide) rest
  | cons member others =>
    obtain ⟨key, value⟩ := member
    obtain ⟨valueSpelled, othersSpelled⟩ := Bool.and_eq_true_iff.mp wellSpelled
    simp only [membersChars, List.cons_append, List.append_assoc]
    rw [withoutBlanks_mark (by decide), withoutBlanks_lineBreak, withoutBlanks_quotedChars,
      withoutBlanks_colon, withoutBlanks_chars layout.deeper value valueSpelled,
      withoutBlanks_membersChars layout others othersSpelled]
    rfl

end

end SearchQuery.Json
