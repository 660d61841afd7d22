import Mathlib.Data.List.TakeWhile
import SearchQuery.Json.Numeral

/-!
# The spellings of numbers

A numeral says which digits a number is spelled with, but not which letter and sign its exponent
has: these make up the spellings of the numeral (`Spelling`). The reader takes a spelling off the
front of a text (`read?_of_spelling`, `exists_spelling_of_read?`), provided that nothing stands
behind it that would go on with it. The written form of a numeral is one of its spellings
(`spelling_chars`), and the decimal digits of a natural number are those of a numeral that the
grammar allows.
-/

set_option autoImplicit false

namespace SearchQuery.Numeral

/-- A numeral is spelled as the grammar wants it: no part without digits, and no leading zeros. -/
structure WellSpelled (numeral : Numeral) : Prop where
  notEmpty : numeral.whole ≠ []
  whole : ∀ c ∈ numeral.whole, c.isDigit = true
  noLeadingZero : numeral.whole.head? = some '0' → numeral.whole = ['0']
  fraction : ∀ c ∈ numeral.fraction, c.isDigit = true
  exponent : ∀ power ∈ numeral.exponent, power.2 ≠ [] ∧ ∀ c ∈ power.2, c.isDigit = true

instance (numeral : Numeral) : Decidable numeral.WellSpelled :=
  decidable_of_iff
    ((!numeral.whole.isEmpty && numeral.whole.all Char.isDigit &&
      (numeral.whole.head? != some '0' || numeral.whole == ['0']) &&
      numeral.fraction.all Char.isDigit &&
      numeral.exponent.all fun power => !power.2.isEmpty && power.2.all Char.isDigit) = true) <| by
    simp only [Bool.and_eq_true, Bool.not_eq_true', List.isEmpty_eq_false_iff, List.all_eq_true,
      Bool.or_eq_true, bne_iff_ne, beq_iff_eq, Option.all_eq_true, ne_eq,
      ← Decidable.imp_iff_not_or]
    constructor
    · intro checks
      obtain ⟨⟨⟨⟨notEmpty, whole⟩, noLeadingZero⟩, fraction⟩, exponent⟩ := checks
      exact ⟨notEmpty, whole, noLeadingZero, fraction, exponent⟩
    · intro spelled
      exact ⟨⟨⟨⟨spelled.notEmpty, spelled.whole⟩, spelled.noLeadingZero⟩, spelled.fraction⟩,
        spelled.exponent⟩

/-- A text at whose start no number goes on. -/
def Ends (rest : List Char) : Prop :=
  ∀ c, rest.head? = some c → c.isDigit = false ∧ c ≠ '.' ∧ c ≠ 'e' ∧ c ≠ 'E'

theorem digitChar_ne_zero : ∀ n < 10, 0 < n → n.digitChar ≠ '0' := by
  decide

theorem head_toDigits_ne_zero {n : Nat} (positive : 0 < n) :
    (Nat.toDigits 10 n).head? ≠ some '0' := by
  induction n using Nat.strongRecOn with
  | ind n ih =>
    rw [Nat.toDigits_eq_if (by omega)]
    split
    · rename_i small
      intro isHead
      exact digitChar_ne_zero n small positive (Option.some.inj isHead)
    · have ahead : Nat.toDigits 10 (n / 10) ≠ [] := Nat.toDigits_ne_nil
      rw [List.head?_append, List.head?_eq_some_head ahead, Option.some_or,
        ← List.head?_eq_some_head ahead]
      exact ih (n / 10) (by omega) (by omega)

theorem wellSpelled_ofNat (n : Nat) : (ofNat n).WellSpelled where
  notEmpty := Nat.toDigits_ne_nil
  whole c member := Nat.isDigit_of_mem_toDigits (by omega) (by omega) member
  noLeadingZero zero := by
    rcases Nat.eq_zero_or_pos n with isZero | positive
    · rw [isZero]
      rfl
    · exact absurd zero (head_toDigits_ne_zero positive)
  fraction c member := by cases member
  exponent power member := by cases member

/-!
## Parts of a number
-/

theorem readDigits_append {digits rest : List Char} (isDigits : ∀ c ∈ digits, c.isDigit = true)
    (ends : ∀ c, rest.head? = some c → c.isDigit = false) :
    readDigits (digits ++ rest) = (digits, rest) := by
  have none : rest.takeWhile Char.isDigit = [] ∧ rest.dropWhile Char.isDigit = rest := by
    cases rest with
    | nil => exact ⟨rfl, rfl⟩
    | cons c rest =>
      have notDigit := ends c rfl
      simp [notDigit]
  rw [readDigits, List.takeWhile_append_of_pos isDigits, List.dropWhile_append_of_pos isDigits,
    none.1, none.2, List.append_nil]

theorem readWhole?_append {whole rest : List Char} (notEmpty : whole ≠ [])
    (isDigits : ∀ c ∈ whole, c.isDigit = true)
    (noLeadingZero : whole.head? = some '0' → whole = ['0'])
    (ends : ∀ c, rest.head? = some c → c.isDigit = false) :
    readWhole? (whole ++ rest) = some (whole, rest) := by
  cases whole with
  | nil => exact absurd rfl notEmpty
  | cons c digits =>
    by_cases zero : c = '0'
    · subst zero
      rw [noLeadingZero rfl]
      rfl
    · have isDigit := isDigits c List.mem_cons_self
      have later := readDigits_append (fun d member => isDigits d (List.mem_cons_of_mem _ member))
        ends
      rw [List.cons_append, readWhole?.eq_3 c (digits ++ rest) zero, if_pos isDigit, later]

def fractionChars (fraction : List Char) : List Char :=
  if fraction = [] then [] else '.' :: fraction

/-- The spellings of an exponent, or of none. -/
inductive ExponentSpelling : Option (Bool × List Char) → List Char → Prop where
  | absent : ExponentSpelling none []
  | present {letter : Char} {sign digits : List Char} {negative : Bool} :
      letter = 'e' ∨ letter = 'E' →
      (sign, negative) ∈ [([], false), (['+'], false), (['-'], true)] →
      ExponentSpelling (some (negative, digits)) (letter :: (sign ++ digits))

/-- The spellings of a number. -/
inductive Spelling (numeral : Numeral) : List Char → Prop where
  | mk {exponent : List Char} :
      numeral.WellSpelled → ExponentSpelling numeral.exponent exponent →
      Spelling numeral ((if numeral.negative then ['-'] else []) ++
        (numeral.whole ++ (fractionChars numeral.fraction ++ exponent)))

theorem readFraction?_append {fraction rest : List Char}
    (isDigits : ∀ c ∈ fraction, c.isDigit = true)
    (ends : ∀ c, rest.head? = some c → c.isDigit = false ∧ c ≠ '.') :
    readFraction? (fractionChars fraction ++ rest) = some (fraction, rest) := by
  cases fraction with
  | nil =>
    cases rest with
    | nil => rfl
    | cons c rest => exact readFraction?.eq_2 (c :: rest) fun _ same =>
        (ends c rfl).2 (List.cons.inj same).1
  | cons first digits =>
    have read := readDigits_append isDigits fun c isHead => (ends c isHead).1
    rw [fractionChars, if_neg (List.cons_ne_nil _ _), List.cons_append, readFraction?, read]

theorem readExponentSign_append {sign digits : List Char} {negative : Bool}
    (isSign : (sign, negative) ∈ [([], false), (['+'], false), (['-'], true)])
    (notEmpty : digits ≠ []) (isDigits : ∀ c ∈ digits, c.isDigit = true) (rest : List Char) :
    readExponentSign (sign ++ (digits ++ rest)) = (negative, digits ++ rest) := by
  simp only [List.mem_cons, List.not_mem_nil, or_false, Prod.mk.injEq] at isSign
  obtain ⟨rfl, rfl⟩ | ⟨rfl, rfl⟩ | ⟨rfl, rfl⟩ := isSign
  · obtain ⟨first, others, rfl⟩ := List.exists_cons_of_ne_nil notEmpty
    have isDigit := isDigits first List.mem_cons_self
    refine readExponentSign.eq_3 _ (fun _ same => ?_) (fun _ same => ?_)
    · rw [(List.cons.inj same).1] at isDigit
      cases isDigit
    · rw [(List.cons.inj same).1] at isDigit
      cases isDigit
  · rfl
  · rfl

theorem readExponent?_append {exponent : Option (Bool × List Char)} {text : List Char}
    (spelling : ExponentSpelling exponent text)
    (isDigits : ∀ power ∈ exponent, power.2 ≠ [] ∧ ∀ c ∈ power.2, c.isDigit = true)
    {rest : List Char} (ends : Ends rest) :
    readExponent? (text ++ rest) = some (exponent, rest) := by
  cases spelling with
  | absent =>
    cases rest with
    | nil => rfl
    | cons c rest =>
      obtain ⟨_, _, lower, upper⟩ := ends c rfl
      exact if_neg (by simp [lower, upper])
  | @present letter sign digits negative isLetter isSign =>
    obtain ⟨notEmpty, isDigits⟩ := isDigits _ rfl
    have read := readDigits_append isDigits fun c isHead => (ends c isHead).1
    have signed := readExponentSign_append isSign notEmpty isDigits rest
    rw [List.cons_append, List.append_assoc, readExponent?, if_pos isLetter, signed]
    simp only [read]

theorem eq_append_of_readDigits {text digits rest : List Char}
    (read : readDigits text = (digits, rest)) :
    (∀ c ∈ digits, c.isDigit = true) ∧ text = digits ++ rest := by
  cases read
  exact ⟨fun c member => List.mem_takeWhile_imp member, List.takeWhile_append_dropWhile.symm⟩

theorem eq_append_of_readWhole? {text whole rest : List Char}
    (read : readWhole? text = some (whole, rest)) :
    (whole ≠ [] ∧ (∀ c ∈ whole, c.isDigit = true) ∧ (whole.head? = some '0' → whole = ['0'])) ∧
      text = whole ++ rest := by
  unfold readWhole? at read
  split at read
  · cases read
  · cases read
    exact ⟨⟨by simp, by simp, fun _ => rfl⟩, rfl⟩
  · rename_i c text notZero
    split at read
    · rename_i isDigit
      cases read
      obtain ⟨isDigits, split⟩ := @eq_append_of_readDigits text _ _ rfl
      refine ⟨⟨List.cons_ne_nil _ _, List.forall_mem_cons.mpr ⟨isDigit, isDigits⟩, ?_⟩, ?_⟩
      · intro first
        exact absurd (Option.some.inj first) notZero
      · exact congrArg (c :: ·) split
    · cases read

theorem eq_append_of_readFraction? {text fraction rest : List Char}
    (read : readFraction? text = some (fraction, rest)) :
    (∀ c ∈ fraction, c.isDigit = true) ∧ text = fractionChars fraction ++ rest := by
  unfold readFraction? at read
  split at read
  · split at read
    · cases read
    · rename_i _ text digits unread notEmpty isRead
      cases read
      obtain ⟨isDigits, rfl⟩ := eq_append_of_readDigits isRead
      exact ⟨isDigits, by rw [fractionChars, if_neg notEmpty]; rfl⟩
  · cases read
    exact ⟨by simp, rfl⟩

theorem eq_append_of_readExponentSign (text : List Char) :
    ∃ sign, (sign, (readExponentSign text).1) ∈ [([], false), (['+'], false), (['-'], true)] ∧
      text = sign ++ (readExponentSign text).2 := by
  unfold readExponentSign
  split
  · exact ⟨['+'], by simp, rfl⟩
  · exact ⟨['-'], by simp, rfl⟩
  · exact ⟨[], by simp, rfl⟩

theorem eq_append_of_readExponent? {text rest : List Char} {exponent : Option (Bool × List Char)}
    (read : readExponent? text = some (exponent, rest)) :
    (∀ power ∈ exponent, power.2 ≠ [] ∧ ∀ c ∈ power.2, c.isDigit = true) ∧
      ∃ spelled, ExponentSpelling exponent spelled ∧ text = spelled ++ rest := by
  unfold readExponent? at read
  split at read
  · cases read
    exact ⟨by simp, [], .absent, rfl⟩
  · rename_i c text
    split at read
    · rename_i isLetter
      obtain ⟨sign, isSign, split⟩ := eq_append_of_readExponentSign text
      generalize readExponentSign text = signed at read isSign split
      obtain ⟨negative, unsigned⟩ := signed
      dsimp only at read isSign split
      split at read
      · cases read
      · rename_i digits unread notEmpty isRead
        cases read
        obtain ⟨isDigits, rfl⟩ := eq_append_of_readDigits isRead
        refine ⟨fun power isPower => ?_, c :: (sign ++ digits), .present isLetter isSign, ?_⟩
        · cases isPower
          exact ⟨notEmpty, isDigits⟩
        · rw [split, List.cons_append, List.append_assoc]
    · cases read
      exact ⟨by simp, [], .absent, rfl⟩

/-!
## A number
-/

theorem readUnsigned?_append {numeral : Numeral} (spelled : numeral.WellSpelled)
    {exponent : List Char} (spelling : ExponentSpelling numeral.exponent exponent)
    {rest : List Char} (ends : Ends rest) :
    readUnsigned? numeral.negative
      (numeral.whole ++ (fractionChars numeral.fraction ++ (exponent ++ rest))) =
      some (numeral, rest) := by
  have afterFraction : ∀ c, (exponent ++ rest).head? = some c → c.isDigit = false ∧ c ≠ '.' := by
    intro c isHead
    generalize numeral.exponent = power at spelling
    cases spelling with
    | absent => exact ⟨(ends c isHead).1, (ends c isHead).2.1⟩
    | present isLetter _ =>
      cases isHead
      rcases isLetter with rfl | rfl <;> exact ⟨rfl, by decide⟩
  have afterWhole : ∀ c, (fractionChars numeral.fraction ++ (exponent ++ rest)).head? = some c →
      c.isDigit = false := by
    cases numeral.fraction with
    | nil => exact fun c isHead => (afterFraction c isHead).1
    | cons first digits =>
      intro c isHead
      cases isHead
      rfl
  rw [readUnsigned?, readWhole?_append spelled.notEmpty spelled.whole spelled.noLeadingZero
    afterWhole]
  simp only [readFraction?_append spelled.fraction afterFraction,
    readExponent?_append spelling spelled.exponent ends]

theorem read?_of_spelling {numeral : Numeral} {text : List Char} (spelling : Spelling numeral text)
    {rest : List Char} (ends : Ends rest) : read? (text ++ rest) = some (numeral, rest) := by
  obtain ⟨spelled, exponentSpelling⟩ := spelling
  have unsigned := readUnsigned?_append spelled exponentSpelling ends
  simp only [List.append_assoc]
  cases isNegative : numeral.negative with
  | true =>
    rw [isNegative] at unsigned
    exact unsigned
  | false =>
    rw [isNegative] at unsigned
    refine (read?.eq_2 _ fun _ same => ?_).trans unsigned
    cases isWhole : numeral.whole with
    | nil => exact spelled.notEmpty isWhole
    | cons first digits =>
      have isDigit := spelled.whole first (by rw [isWhole]; exact List.mem_cons_self)
      rw [isWhole] at same
      rw [(List.cons.inj same).1] at isDigit
      cases isDigit

theorem exists_spelling_of_readUnsigned? {negative : Bool} {text rest : List Char}
    {numeral : Numeral} (read : readUnsigned? negative text = some (numeral, rest)) :
    ∃ unsigned, Spelling numeral ((if negative then ['-'] else []) ++ unsigned) ∧
      text = unsigned ++ rest := by
  unfold readUnsigned? at read
  split at read
  · cases read
  · rename_i whole afterWhole isWhole
    split at read
    · cases read
    · rename_i fraction afterFraction isFraction
      split at read
      · cases read
      · rename_i exponent unread isExponent
        cases read
        obtain ⟨⟨notEmpty, wholeDigits, noLeadingZero⟩, rfl⟩ := eq_append_of_readWhole? isWhole
        obtain ⟨fractionDigits, rfl⟩ := eq_append_of_readFraction? isFraction
        obtain ⟨exponentDigits, spelled, spelling, rfl⟩ := eq_append_of_readExponent? isExponent
        refine ⟨whole ++ (fractionChars fraction ++ spelled), ?_, by simp⟩
        exact @Spelling.mk ⟨negative, whole, fraction, exponent⟩ spelled
          ⟨notEmpty, wholeDigits, noLeadingZero, fractionDigits, exponentDigits⟩ spelling

theorem exists_spelling_of_read? {text rest : List Char} {numeral : Numeral}
    (read : read? text = some (numeral, rest)) :
    ∃ spelled, Spelling numeral spelled ∧ text = spelled ++ rest := by
  unfold read? at read
  split at read
  · obtain ⟨unsigned, spelling, rfl⟩ := exists_spelling_of_readUnsigned? read
    exact ⟨_, spelling, rfl⟩
  · obtain ⟨unsigned, spelling, rfl⟩ := exists_spelling_of_readUnsigned? read
    exact ⟨_, spelling, rfl⟩

/-- A spelling starts with a minus sign or a digit. -/
theorem Spelling.exists_head {numeral : Numeral} {text : List Char}
    (spelling : Spelling numeral text) :
    ∃ c rest, text = c :: rest ∧ (c = '-' ∨ c.isDigit = true) := by
  obtain ⟨spelled, _⟩ := spelling
  cases numeral.negative with
  | true => exact ⟨'-', _, rfl, .inl rfl⟩
  | false =>
    cases isWhole : numeral.whole with
    | nil => exact absurd isWhole spelled.notEmpty
    | cons first digits =>
      exact ⟨first, _, rfl, .inr (spelled.whole first (by rw [isWhole]; exact List.mem_cons_self))⟩

/-!
## The written form
-/

def exponentChars : Option (Bool × List Char) → List Char
  | none => []
  | some (negative, digits) => 'e' :: (if negative then ['-'] else []) ++ digits

theorem chars_eq (numeral : Numeral) :
    numeral.chars = (if numeral.negative then ['-'] else []) ++ (numeral.whole ++
      (fractionChars numeral.fraction ++ exponentChars numeral.exponent)) := by
  obtain ⟨negative, whole, fraction, exponent⟩ := numeral
  cases exponent with
  | none => simp [chars, fractionChars, exponentChars]
  | some power => simp [chars, fractionChars, exponentChars]

theorem exponentSpelling_chars (exponent : Option (Bool × List Char)) :
    ExponentSpelling exponent (exponentChars exponent) := by
  cases exponent with
  | none => exact .absent
  | some power =>
    obtain ⟨negative, digits⟩ := power
    refine .present (.inl rfl) ?_
    cases negative <;> simp

theorem spelling_chars {numeral : Numeral} (spelled : numeral.WellSpelled) :
    Spelling numeral numeral.chars := by
  rw [chars_eq]
  exact .mk spelled (exponentSpelling_chars numeral.exponent)

end SearchQuery.Numeral
