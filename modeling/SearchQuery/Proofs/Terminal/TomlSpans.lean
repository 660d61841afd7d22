import SearchQuery.Proofs.Terminal.Spans

/-!
# Spans of TOML

Whatever a text of TOML is inside of, the next span lies within it (`isLength_firstSpan`).
-/

set_option autoImplicit false

namespace SearchQuery.Terminal.Toml

open SearchQuery.Toml (StringForm scalar? takeScalar isScalarChar isNameChar)

theorem escapeLength_le (text : List Char) : (escapeLength text).1 ≤ text.length := by
  unfold escapeLength
  split
  · simp
  · rename_i c rest _
    generalize (if c = 'u' then 4 else if c = 'U' then 8 else 0) = digits
    simp only [List.length_cons]
    split
    · split
      · rename_i isEscape
        rw [List.length_take] at isEscape
        omega
      · omega
    · omega
  · exact Nat.zero_le _

theorem isLength_marks {form : StringForm} {text : List Char}
    (opens : form.marks.isPrefixOf text = true) : IsLength form.marks.length text where
  positive := by cases form <;> decide
  bounded := (List.isPrefixOf_iff_prefix.mp opens).length_le

theorem bodyLength_le (form : StringForm) (text : List Char) :
    bodyLength form text ≤ text.length := by
  induction text with
  | nil => exact Nat.zero_le _
  | cons c rest ih =>
    rw [bodyLength, List.length_cons]
    split <;> omega

theorem isLength_bodyLength {form : StringForm} {text : List Char} (notEmpty : text ≠ [])
    (goesOn : endsBody form text = false) : IsLength (bodyLength form text) text := by
  refine ⟨?_, bodyLength_le form text⟩
  cases text with
  | nil => exact absurd rfl notEmpty
  | cons c rest =>
    rw [bodyLength, if_neg (by rw [goesOn]; decide)]
    omega

theorem isLength_stringSpan {form : StringForm} {text : List Char} (notEmpty : text ≠ [])
    (outer : State) : IsLength (stringSpan form outer text).length text := by
  unfold stringSpan
  split
  · rename_i closes
    exact isLength_marks closes
  rename_i notClosed
  split
  · exact isLength_one notEmpty
  rename_i notEnded
  generalize isEscape : (if form.hasEscapes then escapeLength text else (0, false)) = escape
  have bounded : escape.1 ≤ text.length := by
    subst isEscape
    split
    · exact escapeLength_le text
    · exact Nat.zero_le _
  split
  · rename_i known
    apply isLength_bodyLength notEmpty
    have noMarks : form.marks.isPrefixOf text = false := Bool.eq_false_iff.mpr notClosed
    cases escapes : form.hasEscapes <;> simp_all [endsBody]
  all_goals
    rename_i length noBody
    exact ⟨Nat.pos_of_ne_zero fun none => noBody none, bounded⟩

theorem isLength_mark? {state next : State} {text : List Char} {length : Nat}
    (found : mark? state text = some (length, next)) : IsLength length text := by
  unfold mark? at found
  split at found
  case h_13 | h_14 =>
    split at found
    · cases found
      exact isLength_one (List.cons_ne_nil _ _)
    · cases found
  case h_15 => cases found
  all_goals
    cases found
    exact ⟨by decide, by simp⟩

theorem takeScalar_append (text : List Char) :
    (takeScalar text).1 ++ (takeScalar text).2 = text := by
  have whole := List.takeWhile_append_dropWhile (p := isScalarChar) (l := text)
  unfold takeScalar
  dsimp only
  split
  · rename_i c rest isRest
    rw [isRest] at whole
    split
    · simp only [List.append_assoc, List.cons_append, List.takeWhile_append_dropWhile]
      exact whole
    · exact whole
  · exact whole

theorem isLength_scalar {text : List Char} (reads : (scalar? (takeScalar text).1).isSome = true) :
    IsLength (takeScalar text).1.length text where
  positive := by
    apply List.length_pos_iff.mpr
    intro nothing
    rw [nothing] at reads
    exact absurd reads (by decide)
  bounded := by
    have whole := congrArg List.length (takeScalar_append text)
    rw [List.length_append] at whole
    omega

theorem isLength_wordSpan {text : List Char} {c : Char} (first : text.head? = some c)
    (notBlank : Text.isBlank c = false) (noComment : c ≠ '#') (state : State) :
    IsLength (wordSpan state text).length text := by
  have ofName (isName : (runLength isNameChar text != 0) = true) :
      IsLength (runLength isNameChar text) text :=
    ⟨Nat.pos_of_ne_zero (bne_iff_ne.mp isName), runLength_le _ _⟩
  simp only [wordSpan]
  split
  · rename_i isKey
    exact ofName (Bool.and_eq_true_iff.mp isKey).2
  split
  · rename_i _ inHeader
    exact ofName (Bool.and_eq_true_iff.mp inHeader).2
  split
  · rename_i _ _ isValue
    exact isLength_scalar (Bool.and_eq_true_iff.mp isValue).2
  · exact isLength_runLength first (by simp [notBlank, noComment])

theorem isLength_codeSpan {text : List Char} (notEmpty : text ≠ []) (state : State) :
    IsLength (codeSpan state text).length text := by
  have first := List.head?_eq_some_head notEmpty
  unfold codeSpan
  split
  · exact isLength_one notEmpty
  rename_i noComment
  split
  · rename_i blank
    rw [first, Option.any_some] at blank
    exact isLength_runLength first blank
  rename_i notBlank
  split
  · rename_i found
    exact isLength_mark? found
  split
  · rename_i form opens
    have opening : StringForm.opening? text = some form := by
      split at opens
      · cases opens
      · exact opens
    have found := List.find?_some opening
    exact isLength_marks found
  · rw [first] at noComment notBlank
    apply isLength_wordSpan first
    · exact Bool.eq_false_iff.mpr notBlank
    · exact fun isMark => noComment (congrArg some isMark)

theorem isLength_firstSpan {text : List Char} (notEmpty : text ≠ []) (state : State) :
    IsLength (firstSpan state text).length text := by
  unfold firstSpan
  split
  · exact isLength_stringSpan notEmpty _
  · split
    · exact isLength_codeSpan notEmpty _
    · rename_i notEnded
      have first := List.head?_eq_some_head notEmpty
      apply isLength_runLength first
      rw [first] at notEnded
      exact bne_iff_ne.mpr fun isEnd => notEnded (congrArg some isEnd)
  · exact isLength_codeSpan notEmpty _

end SearchQuery.Terminal.Toml

namespace SearchQuery.Terminal

theorem measured_toml : toml.Measured fun _ _ => True where
  start _ := trivial
  found _ notEmpty := ⟨Toml.isLength_firstSpan notEmpty _, trivial⟩
  nextLine _ _ := trivial

end SearchQuery.Terminal
