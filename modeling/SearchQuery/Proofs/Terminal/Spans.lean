import SearchQuery.Terminal.Highlight

/-!
# Lines and their spans

The spans of a line follow one another from its start to its end, and each of them has the colour
and the length that the grammar finds where it starts (`Splits`). A cut would go wrong in silence if
a grammar found nothing, or more than is left of the line. So what has to be shown of a grammar is
that what it finds lies within the line; that may depend on what has been seen before, and on
nothing being left open at the end of a line (`Measured`).
-/

set_option autoImplicit false

namespace SearchQuery.Terminal

/-- Some of the characters of a text, and at least one. -/
structure IsLength (length : Nat) (text : List Char) : Prop where
  positive : 0 < length
  bounded : length ≤ text.length

theorem isLength_one {text : List Char} (notEmpty : text ≠ []) : IsLength 1 text :=
  ⟨Nat.one_pos, List.length_pos_iff.mpr notEmpty⟩

theorem runLength_le (test : Char → Bool) (text : List Char) :
    runLength test text ≤ text.length :=
  (List.takeWhile_prefix test).length_le

theorem isLength_runLength {test : Char → Bool} {text : List Char} {c : Char}
    (first : text.head? = some c) (passes : test c = true) :
    IsLength (runLength test text) text := by
  refine ⟨?_, runLength_le test text⟩
  obtain ⟨rest, rfl⟩ := List.head?_eq_some_iff.mp first
  simp [runLength, passes]

/-- What has been seen after a span fits the rest of the text. -/
structure FirstSpan.Within {State : Type} (fits : State → List Char → Prop) (text : List Char)
    (span : FirstSpan State) : Prop where
  length : IsLength span.length text
  next : fits span.next (text.drop span.length)

namespace Grammar

section

variable (grammar : Grammar)

inductive Splits : grammar.State → List Char → List Span → grammar.State → Prop where
  | done (state : grammar.State) : Splits state [] [] state
  | span {state last : grammar.State} {text piece rest : List Char} {spans : List Span} :
      text = piece ++ rest → piece ≠ [] → (grammar.first state text).length = piece.length →
      Splits (grammar.first state text).next rest spans last →
      Splits state text (⟨(grammar.first state text).colour, piece⟩ :: spans) last

/-- The spans of some lines, one line after the other. What has been seen is kept. -/
inductive SplitsLines : grammar.State → List (List Char) → List Span → Prop where
  | none (state : grammar.State) : SplitsLines state [] []
  | line {state next : grammar.State} {line : List Char} {lines : List (List Char)}
      {spans others : List Span} :
      Splits grammar state line spans next → SplitsLines next lines others →
      SplitsLines state (line :: lines) (spans ++ others)

/-- What a grammar finds lies within the line, if what has been seen before fits the rest of it. -/
structure Measured (fits : grammar.State → List Char → Prop) : Prop where
  start : ∀ line, fits grammar.start line
  found : ∀ {state text}, fits state text → text ≠ [] →
    (grammar.first state text).Within fits text
  nextLine : ∀ {state}, fits state [] → ∀ line, fits state line

end

variable {grammar : Grammar} {fits : grammar.State → List Char → Prop}

theorem Measured.splits_cut (measured : grammar.Measured fits) {steps : Nat}
    {state : grammar.State} {text : List Char} (fitting : fits state text)
    (enough : text.length ≤ steps) :
    grammar.Splits state text (grammar.cut steps state text).1 (grammar.cut steps state text).2 ∧
      fits (grammar.cut steps state text).2 [] := by
  induction steps generalizing state text with
  | zero =>
    have empty : text = [] := List.length_eq_zero_iff.mp (Nat.le_zero.mp enough)
    subst empty
    exact ⟨.done state, fitting⟩
  | succ steps ih =>
    cases text with
    | nil => exact ⟨.done state, fitting⟩
    | cons c rest =>
      have within := measured.found fitting (List.cons_ne_nil c rest)
      obtain ⟨length, isLength⟩ := Nat.exists_eq_add_one.mpr within.length.positive
      have bounded := within.length.bounded
      have next := within.next
      rw [isLength, List.length_cons, Nat.add_le_add_iff_right] at bounded
      rw [isLength, List.drop_succ_cons] at next
      have enoughLeft : (rest.drop length).length ≤ steps := by
        rw [List.length_drop]
        exact Nat.le_trans (Nat.sub_le _ _) (Nat.le_of_succ_le_succ enough)
      obtain ⟨splits, last⟩ := ih next enoughLeft
      have isWhole : c :: rest = (c :: rest.take length) ++ rest.drop length := by
        rw [List.cons_append, List.take_append_drop]
      have asLong : (grammar.first state (c :: rest)).length = (c :: rest.take length).length := by
        rw [isLength, List.length_cons, List.length_take_of_le bounded]
      simp only [cut, isLength, Nat.add_sub_cancel]
      exact ⟨.span isWhole (List.cons_ne_nil c _) asLong splits, last⟩

theorem Measured.splitsLines_cutLines (measured : grammar.Measured fits)
    (lines : List (List Char)) {state : grammar.State} (fitting : ∀ line, fits state line) :
    grammar.SplitsLines state lines (grammar.cutLines state lines) := by
  induction lines generalizing state with
  | nil => exact .none state
  | cons line lines ih =>
    obtain ⟨splits, last⟩ := measured.splits_cut (fitting line) (Nat.le_refl _)
    exact .line splits (ih (measured.nextLine last))

theorem Measured.splitsLines_spans (measured : grammar.Measured fits) (text : List Char) :
    grammar.SplitsLines grammar.start (Text.linesWithEndings text) (grammar.spans text) :=
  measured.splitsLines_cutLines _ measured.start

end Grammar

theorem measured_plainText : plainText.Measured fun _ _ => True where
  start _ := trivial
  found _ notEmpty := ⟨⟨List.length_pos_iff.mpr notEmpty, Nat.le_refl _⟩, trivial⟩
  nextLine _ _ := trivial

end SearchQuery.Terminal
