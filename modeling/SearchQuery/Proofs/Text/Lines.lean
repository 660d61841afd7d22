import SearchQuery.Text.Layout

/-!
# Lines of a text

How a text is cut into lines, from its start on: a line feed ends a line, a carriage return directly
before it goes with it, and every other character belongs to its line (`lines_cons`). Lines that are
written down one after another, each with a line feed at its end, are cut again into just these lines
(`lines_flatMap_lineFeed`).
-/

set_option autoImplicit false

namespace SearchQuery.Text

theorem withoutEnding_cons {c : Char} {line : List Char}
    (notBreak : c ≠ '\n') (notReturn : ¬ (c = '\r' ∧ line = ['\n'])) :
    withoutEnding (c :: line) = c :: withoutEnding line := by
  -- An ending is found from the back, and two characters are all that is looked at.
  cases reversed : line.reverse with
  | nil =>
    obtain rfl := List.reverse_eq_nil_iff.mp reversed
    simp [withoutEnding, notBreak]
  | cons last front =>
    obtain rfl := List.reverse_eq_iff.mp reversed
    by_cases isBreak : last = '\n'
    · subst isBreak
      cases front with
      | nil =>
        have isKept : c ≠ '\r' := fun isReturn => notReturn ⟨isReturn, rfl⟩
        simp [withoutEnding, isKept]
      | cons beforeLast others =>
        by_cases isReturn : beforeLast = '\r'
        · simp [withoutEnding, isReturn]
        · simp [withoutEnding, isReturn]
    · simp [withoutEnding, isBreak]

theorem lines_lineFeed (rest : List Char) : lines ('\n' :: rest) = [] :: lines rest :=
  rfl

theorem linesWithEndings_cons {c : Char} (notBreak : c ≠ '\n') (rest : List Char) :
    linesWithEndings (c :: rest) =
      match linesWithEndings rest with
      | [] => [[c]]
      | line :: others => (c :: line) :: others :=
  linesWithEndings.eq_3 c rest notBreak

theorem lines_carriageReturn (rest : List Char) :
    lines ('\r' :: '\n' :: rest) = [] :: lines rest :=
  rfl

/-- A character that ends no line belongs to the first line of the text. -/
theorem lines_cons {c : Char} {rest : List Char} (notBreak : c ≠ '\n')
    (notReturn : ¬ (c = '\r' ∧ rest.head? = some '\n')) :
    lines (c :: rest) =
      match lines rest with
      | [] => [[c]]
      | line :: others => (c :: line) :: others := by
  rw [lines, linesWithEndings_cons notBreak, lines]
  cases cut : linesWithEndings rest with
  | nil => simp [withoutEnding, notBreak]
  | cons line others =>
    have first : line = ['\n'] → rest.head? = some '\n' := by
      rintro rfl
      rw [← flatten_linesWithEndings rest, cut]
      rfl
    have kept := withoutEnding_cons notBreak fun isEnding =>
      notReturn ⟨isEnding.1, first isEnding.2⟩
    simp only [List.map_cons, kept]

/-- A text that is one line: it has no line feed, and no carriage return at its end, which would be
lost with the line feed that is set behind it. -/
structure IsLine (text : List Char) : Prop where
  noBreak : '\n' ∉ text
  noReturn : text.getLast? ≠ some '\r'

theorem lines_append_lineFeed {line : List Char} (isLine : IsLine line) (rest : List Char) :
    lines (line ++ '\n' :: rest) = line :: lines rest := by
  induction line with
  | nil => rfl
  | cons c line ih =>
    obtain ⟨noBreak, noReturn⟩ := isLine
    rw [List.mem_cons, not_or] at noBreak
    have restIsLine : IsLine line := by
      refine ⟨noBreak.2, fun isLast => noReturn ?_⟩
      rw [List.getLast?_cons, isLast]
      rfl
    have notReturn : ¬ (c = '\r' ∧ (line ++ '\n' :: rest).head? = some '\n') := by
      rintro ⟨rfl, isNext⟩
      cases line with
      | nil => exact noReturn rfl
      | cons d line =>
        cases isNext
        exact noBreak.2 List.mem_cons_self
    rw [List.cons_append, lines_cons (Ne.symm noBreak.1) notReturn, ih restIsLine]

theorem lines_flatMap_lineFeed {parts : List (List Char)} (areLines : ∀ part ∈ parts, IsLine part) :
    lines (parts.flatMap (· ++ ['\n'])) = parts := by
  induction parts with
  | nil => rfl
  | cons part parts ih =>
    obtain ⟨isLine, others⟩ := List.forall_mem_cons.mp areLines
    rw [List.flatMap_cons, List.append_assoc, List.singleton_append, lines_append_lineFeed isLine,
      ih others]

end SearchQuery.Text
