import SearchQuery.Proofs.Terminal.Spans

/-!
# Spans of JSON

A number with a point gives three spans, and what comes next is settled before the point has been
shown: behind the first of them there has to be a point and behind that a digit. Everything else
that a text is inside of stays open whatever follows. `Fits` says so, and with it the next span of a
text lies within it (`within_firstSpan`).
-/

set_option autoImplicit false

namespace SearchQuery.Terminal.Json

def Context.inNumber : Context → Bool
  | .point | .fraction => true
  | _ => false

def Whole (nesting : List Context) : Prop :=
  ∀ context ∈ nesting, context.inNumber = false

@[simp] theorem whole_nil : Whole [] :=
  fun _ inside => absurd inside List.not_mem_nil

@[simp] theorem whole_cons {context : Context} {outer : List Context} :
    Whole (context :: outer) ↔ context.inNumber = false ∧ Whole outer :=
  List.forall_mem_cons

inductive Fits : List Context → List Char → Prop where
  | whole {nesting : List Context} {text : List Char} : Whole nesting → Fits nesting text
  | point {outer : List Context} {digits : List Char} :
      Whole outer → digitsLength digits ≠ 0 → Fits (.point :: outer) ('.' :: digits)
  | fraction {outer : List Context} {text : List Char} :
      Whole outer → digitsLength text ≠ 0 → Fits (.fraction :: outer) text

theorem Fits.nextLine {nesting : List Context} (fits : Fits nesting []) (line : List Char) :
    Fits nesting line := by
  cases fits with
  | whole whole => exact .whole whole
  | fraction _ digits => exact absurd rfl digits

theorem within_of_whole {text : List Char} {span : First} (length : IsLength span.length text)
    (whole : Whole span.next) : span.Within Fits text :=
  ⟨length, .whole whole⟩

/-! ## Strings -/

theorem escapeLength_le (text : List Char) : (escapeLength text).1 ≤ text.length := by
  unfold escapeLength
  split
  · rename_i rest
    simp only [List.length_cons]
    split
    · rename_i isEscape
      rw [List.length_take] at isEscape
      omega
    · omega
  · simp only [List.length_cons]
    split <;> omega
  · exact Nat.zero_le _

theorem bodyLength_le (text : List Char) : bodyLength text ≤ text.length := by
  induction text with
  | nil => exact Nat.zero_le _
  | cons c rest ih =>
    rw [bodyLength, List.length_cons]
    split <;> omega

theorem within_stringSpan {outer : List Context} {text : List Char} (notEmpty : text ≠ [])
    (whole : Whole outer) : (stringSpan outer text).Within Fits text := by
  have inside : Whole (.string :: outer) := whole_cons.mpr ⟨rfl, whole⟩
  unfold stringSpan
  split
  · exact within_of_whole (isLength_one notEmpty) whole
  · exact within_of_whole (isLength_one notEmpty) whole
  rename_i noQuote noBreak
  have bounded := escapeLength_le text
  split
  · rename_i known noEscape
    refine within_of_whole ⟨?_, bodyLength_le text⟩ inside
    cases text with
    | nil => exact absurd rfl notEmpty
    | cons c rest =>
      have goesOn : ¬ (c = '"' ∨ c = '\n' ∨ (escapeLength (c :: rest)).1 ≠ 0) := by
        rintro (rfl | rfl | escape)
        · exact noQuote rest rfl
        · exact noBreak rest rfl
        · exact escape (congrArg Prod.fst noEscape)
      simp only [bodyLength, if_neg goesOn]
      omega
  all_goals
    rename_i length noBody isEscape
    rw [isEscape] at bounded
    refine within_of_whole ⟨Nat.pos_of_ne_zero fun none => ?_, bounded⟩ inside
    exact noBody none

/-! ## Comments -/

theorem closedLength_le (text : List Char) : closedLength text ≤ text.length := by
  fun_induction closedLength text <;> simp only [List.length_cons, List.length_nil] at * <;> omega

theorem within_blockSpan {outer : List Context} {text : List Char} (notEmpty : text ≠ [])
    (whole : Whole outer) : (blockSpan outer text).Within Fits text := by
  unfold blockSpan
  split
  · apply within_of_whole
    · exact ⟨List.length_pos_iff.mpr notEmpty, Nat.le_refl _⟩
    · exact whole_cons.mpr ⟨rfl, whole⟩
  · rename_i notOpen
    exact within_of_whole ⟨Nat.pos_of_ne_zero notOpen, closedLength_le text⟩ whole

theorem isLength_commentMark? {text : List Char} {length : Nat} {comment : Context}
    (found : commentMark? text = some (length, comment)) :
    IsLength length text ∧ comment.inNumber = false := by
  unfold commentMark? at found
  split at found
  case h_5 => cases found
  all_goals
    cases found
    exact ⟨⟨by decide, by simp⟩, rfl⟩

/-! ## Numbers -/

theorem digitsLength_le (text : List Char) : digitsLength text ≤ text.length :=
  runLength_le _ text

theorem integerLength_le (text : List Char) : integerLength text ≤ text.length := by
  have all := digitsLength_le text
  unfold integerLength
  split
  · simp
  · rename_i rest _
    have digits := digitsLength_le rest
    simp only [List.length_cons]
    split <;> omega
  · simp
  · exact all

theorem exponentLength_le (text : List Char) : exponentLength text ≤ text.length := by
  unfold exponentLength
  split
  · exact Nat.zero_le _
  rename_i c rest
  have afterSign (sign : Nat) (fits : sign ≤ rest.length) :
      1 + sign + digitsLength (rest.drop sign) ≤ rest.length + 1 := by
    have digits := digitsLength_le (rest.drop sign)
    rw [List.length_drop] at digits
    omega
  dsimp only
  rw [List.length_cons]
  split
  all_goals
    split
    · apply afterSign
      simp
    · exact Nat.zero_le _

/-- A number ends behind its exponent, wherever its digits end. -/
theorem add_exponentLength_le {length : Nat} {text : List Char} (bounded : length ≤ text.length) :
    length + exponentLength (text.drop length) ≤ text.length := by
  have exponent := exponentLength_le (text.drop length)
  rw [List.length_drop] at exponent
  omega

theorem exists_digits {text : List Char} (isFraction : fractionLength text ≠ 0) :
    ∃ digits, text = '.' :: digits ∧ digitsLength digits ≠ 0 := by
  unfold fractionLength at isFraction
  split at isFraction
  · rename_i digits
    refine ⟨digits, rfl, fun none => isFraction ?_⟩
    exact if_pos none
  · exact absurd rfl isFraction

theorem within_numberSpan {nesting : List Context} {text : List Char}
    (isInteger : integerLength text ≠ 0) (whole : Whole nesting) :
    (numberSpan nesting text).Within Fits text := by
  have positive := Nat.pos_of_ne_zero isInteger
  have bounded := integerLength_le text
  simp only [numberSpan]
  split
  · apply within_of_whole
    · exact ⟨Nat.add_pos_left positive _, add_exponentLength_le bounded⟩
    · exact whole
  · rename_i isFraction
    obtain ⟨digits, isRest, someDigits⟩ := exists_digits isFraction
    refine ⟨⟨positive, bounded⟩, ?_⟩
    dsimp only
    rw [isRest]
    exact .point whole someDigits

/-! ## Words, marks and blanks -/

theorem wordLength_le (afterWord : Bool) (text : List Char) :
    wordLength afterWord text ≤ text.length := by
  unfold wordLength
  split
  · rename_i word found
    split
    · exact Nat.zero_le _
    · have starts := List.find?_some found
      exact (List.isPrefixOf_iff_prefix.mp starts).length_le
  · exact Nat.zero_le _

theorem whole_afterMark? {nesting next : List Context} {c : Char} (whole : Whole nesting)
    (found : afterMark? nesting c = some next) : Whole next := by
  unfold afterMark? at found
  split at found
  all_goals first
    | cases found
      simp_all [Context.inNumber]
    | cases found

theorem whole_settled {nesting : List Context} (whole : Whole nesting) (text : List Char) :
    Whole (settled nesting text) := by
  unfold settled
  split
  · exact (whole_cons.mp whole).2
  · exact whole

theorem plainLength_le (afterWord : Bool) (text : List Char) :
    plainLength afterWord text ≤ text.length := by
  induction text generalizing afterWord with
  | nil => exact Nat.zero_le _
  | cons c rest ih =>
    rw [plainLength, List.length_cons]
    split
    · exact Nat.zero_le _
    · have := ih (isWordChar c)
      omega

theorem within_gapSpan {nesting : List Context} {text : List Char} {c : Char}
    (first : text.head? = some c) (blank : Text.isBlank c = true) (whole : Whole nesting) :
    (gapSpan nesting text).Within Fits text := by
  have gap := isLength_runLength first blank
  have positive := gap.positive
  have bounded := gap.bounded
  simp only [gapSpan]
  split
  · rename_i outer _ _
    have outside := (whole_cons.mp whole).2
    split
    · exact within_of_whole ⟨Nat.one_pos, by dsimp only; omega⟩ outside
    · exact within_of_whole ⟨by dsimp only; omega, by dsimp only; omega⟩ whole
  · exact within_of_whole gap whole

theorem within_valueSpan {nesting : List Context} {text : List Char} (notEmpty : text ≠ [])
    (noComment : commentMark? text = none)
    (noMark : text.head?.bind (afterMark? (settled nesting text)) = none)
    (whole : Whole nesting) (afterWord : Bool) :
    (valueSpan nesting afterWord text).Within Fits text := by
  obtain ⟨c, rest, rfl⟩ := List.exists_cons_of_ne_nil notEmpty
  unfold valueSpan
  split
  · exact within_of_whole (isLength_one notEmpty) (whole_cons.mpr ⟨rfl, whole⟩)
  rename_i noQuote
  split
  · rename_i outside
    obtain ⟨rfl, noConstant⟩ := outside
    refine within_of_whole ⟨?_, plainLength_le _ _⟩ whole
    have noSpan : startsSpan afterWord (c :: rest) = false := by
      have unmarked : afterMark? [] c = none := noMark
      simp_all [startsSpan]
    simp only [plainLength, noSpan, Bool.false_eq_true, if_false]
    omega
  rename_i notOutside
  split
  · rename_i blank
    exact within_gapSpan rfl blank whole
  split
  · exact within_of_whole (isLength_one notEmpty) whole
  rename_i inPlace
  split
  · rename_i noWord
    apply within_numberSpan _ whole
    intro noInteger
    apply inPlace
    simp [startsConstant, noWord, noInteger]
  · rename_i isWord
    exact within_of_whole ⟨Nat.pos_of_ne_zero isWord, wordLength_le _ _⟩ whole

theorem within_codeSpan {nesting : List Context} {text : List Char} (notEmpty : text ≠ [])
    (whole : Whole nesting) (afterWord : Bool) :
    (codeSpan nesting afterWord text).Within Fits text := by
  unfold codeSpan
  split
  · rename_i found
    obtain ⟨length, notInNumber⟩ := isLength_commentMark? found
    exact within_of_whole length (whole_cons.mpr ⟨notInNumber, whole⟩)
  rename_i noComment
  split
  · rename_i next found
    obtain ⟨c, _, marks⟩ := Option.bind_eq_some_iff.mp found
    apply within_of_whole (isLength_one notEmpty)
    exact whole_afterMark? (whole_settled whole text) marks
  · rename_i noMark
    exact within_valueSpan notEmpty noComment noMark whole afterWord

theorem within_firstSpan {state : State} {text : List Char} (notEmpty : text ≠ [])
    (fits : Fits state.nesting text) : (firstSpan state text).Within Fits text := by
  obtain ⟨nesting, afterWord⟩ := state
  cases fits with
  | point whole digits =>
    exact ⟨isLength_one notEmpty, .fraction whole digits⟩
  | fraction whole digits =>
    apply within_of_whole _ whole
    have positive := Nat.pos_of_ne_zero digits
    exact ⟨Nat.add_pos_left positive _, add_exponentLength_le (digitsLength_le text)⟩
  | whole whole =>
    change Whole nesting at whole
    dsimp only [firstSpan]
    split
    · exact within_stringSpan notEmpty (whole_cons.mp whole).2
    · cases (whole_cons.mp whole).1
    · cases (whole_cons.mp whole).1
    · apply within_of_whole
      · exact ⟨List.length_pos_iff.mpr notEmpty, Nat.le_refl _⟩
      · exact (whole_cons.mp whole).2
    · exact within_blockSpan notEmpty (whole_cons.mp whole).2
    · exact within_codeSpan notEmpty whole _

end SearchQuery.Terminal.Json

namespace SearchQuery.Terminal

theorem measured_json : json.Measured fun state text => Json.Fits state.nesting text where
  start _ := .whole Json.whole_nil
  found fits notEmpty :=
    have within := Json.within_firstSpan notEmpty fits
    ⟨within.length, within.next⟩
  nextLine fits line := fits.nextLine line

end SearchQuery.Terminal
