import SearchQuery.Json.NumberText
import SearchQuery.Proofs.Decimal.Written

/-!
# The text of a number

`IsText` says which text a number has, and `InRange` which numbers have one: an integer of 64 bits is
written by its digits, and any other number by the shortest decimal of its double. The double is the
one of `ReadsAs`: a significand of 64 bits and a power of ten are rounded, and their product or
quotient is rounded again (`text?_eq_some_iff`, `text?_isSome_iff`).
-/

set_option autoImplicit false

namespace SearchQuery

namespace Numeral

open Binary64 (RoundsTo)

/-! ## Digits that are read -/

/-- Of some digits as many are taken as keep the number they make up below `2 ^ 64`, with other
digits ahead of them that make up a number already. -/
structure Leading (ahead : ℕ) (digits taken left : List Char) : Prop where
  split : digits = taken ++ left
  fits : Nat.ofDigitChars 10 taken ahead < 2 ^ 64
  stops : ∀ digit ∈ left.head?, 2 ^ 64 ≤ Nat.ofDigitChars 10 (taken ++ [digit]) ahead

theorem exists_leading {ahead : ℕ} (small : ahead < 2 ^ 64) (digits : List Char) :
    ∃ taken, Leading ahead digits taken (takeDigits ahead digits).2 ∧
      (takeDigits ahead digits).1 = Nat.ofDigitChars 10 taken ahead := by
  induction digits generalizing ahead with
  | nil => exact ⟨[], ⟨rfl, small, by simp [takeDigits]⟩, rfl⟩
  | cons digit rest ih =>
    have longer : ahead * 10 + (digit.toNat - '0'.toNat) =
        10 * ahead + (digit.toNat - '0'.toNat) := by rw [Nat.mul_comm]
    rw [takeDigits]
    simp only [longer]
    split
    · rename_i fits
      obtain ⟨taken, ⟨split, isFit, stops⟩, isNumber⟩ := ih fits
      exact ⟨digit :: taken, ⟨congrArg (digit :: ·) split, isFit, stops⟩, isNumber⟩
    · rename_i tooLong
      refine ⟨[], ⟨rfl, small, fun next isNext => ?_⟩, rfl⟩
      cases isNext
      exact not_lt.mp tooLong

theorem le_ofDigitChars (digits : List Char) (ahead : ℕ) :
    ahead ≤ Nat.ofDigitChars 10 digits ahead := by
  rw [Nat.ofDigitChars_eq_ofDigitChars_zero]
  have := Nat.one_le_pow digits.length 10 (by norm_num)
  nlinarith

theorem Leading.length_le {ahead : ℕ} {digits taken left other rest : List Char}
    (isLeading : Leading ahead digits taken left) (isOther : Leading ahead digits other rest) :
    other.length ≤ taken.length := by
  obtain ⟨more, rfl, rfl⟩ | ⟨more, rfl, _⟩ :=
    List.append_eq_append_iff.mp (isLeading.split.symm.trans isOther.split)
  · cases more with
    | nil => simp
    | cons digit more =>
      have tooLong := isLeading.stops digit rfl
      have fits := isOther.fits
      rw [List.append_cons, Nat.ofDigitChars_append] at fits
      have := le_ofDigitChars more (Nat.ofDigitChars 10 (taken ++ [digit]) ahead)
      omega
  · simp

theorem Leading.unique {ahead : ℕ} {digits taken left other rest : List Char}
    (isLeading : Leading ahead digits taken left) (isOther : Leading ahead digits other rest) :
    taken = other ∧ left = rest :=
  List.append_inj (isLeading.split.symm.trans isOther.split)
    (le_antisymm (isOther.length_le isLeading) (isLeading.length_le isOther))

/-- The power of ten that is written behind a number. -/
inductive WrittenPower : Option (Bool × List Char) → ℤ → Prop where
  | none : WrittenPower none 0
  | positive {digits : List Char} :
      WrittenPower (some (false, digits)) (Nat.ofDigitChars 10 digits 0)
  | negative {digits : List Char} :
      WrittenPower (some (true, digits)) (-Nat.ofDigitChars 10 digits 0)

theorem writtenPower_iff {exponent : Option (Bool × List Char)} {power : ℤ} :
    WrittenPower exponent power ↔ exponentValue exponent = power := by
  constructor
  · intro isPower
    cases isPower <;> rfl
  · rintro rfl
    obtain _ | ⟨_ | _, digits⟩ := exponent
    · exact .none
    · exact .positive
    · exact .negative

/-! ## Doubles that are read -/

/-- The double of a significand and a power of ten. Both are rounded before they are multiplied or
divided, and a power of ten that is no finite double is divided by in two steps. -/
inductive Scales (significand : ℕ) : ℤ → Binary64 → Prop where
  | multiplied {k : ℕ} {x power product : Binary64} :
      k ≤ 308 → RoundsTo significand x → RoundsTo (10 ^ k) power →
      RoundsTo (x.value * power.value) product → Scales significand k product
  | divided {k : ℕ} {x power quotient : Binary64} :
      0 < k → k ≤ 308 → RoundsTo significand x → RoundsTo (10 ^ k) power →
      RoundsTo (x.value / power.value) quotient → Scales significand (-k) quotient
  | dividedTwice {k : ℕ} {x greatest quotient power result : Binary64} :
      308 < k → k ≤ 616 → RoundsTo significand x → RoundsTo (10 ^ 308) greatest →
      RoundsTo (x.value / greatest.value) quotient → RoundsTo (10 ^ (k - 308)) power →
      RoundsTo (quotient.value / power.value) result → Scales significand (-k) result
  | vanished {k : ℕ} : 616 < k → Scales significand (-k) ⟨0, -1074⟩
  | zero {k : ℕ} : 308 < k → significand = 0 → Scales significand k ⟨0, -1074⟩

theorem powerOfTen_pos : ∀ k < 309, 0 < (powerOfTen k).mantissa := by
  decide +kernel

theorem roundsTo_powerOfTen {k : ℕ} (small : k ≤ 308) : RoundsTo (10 ^ k) (powerOfTen k) := by
  have positive := powerOfTen_pos k (by omega)
  unfold powerOfTen at *
  cases isPower : Binary64.ofNat? (Nat.pow 10 k) with
  | none =>
    rw [isPower] at positive
    exact absurd positive (Nat.lt_irrefl 0)
  | some power =>
    have rounds := Binary64.ofNat?_eq_some_iff.mp isPower
    simpa using rounds

theorem over?_powerOfTen_eq_some_iff {k : ℕ} (small : k ≤ 308) {x quotient : Binary64} :
    x.over? (powerOfTen k) = some quotient ↔ RoundsTo (x.value / (powerOfTen k).value) quotient :=
  Binary64.over?_eq_some_iff (powerOfTen_pos k (by omega))

section

variable {significand : ℕ} {x : Binary64} (rounds : RoundsTo significand x)
include rounds

theorem eq_zero_of_isZero (isZero : x.isZero = true) : significand = 0 ∧ x = ⟨0, -1074⟩ := by
  have mantissa : x.mantissa = 0 := beq_iff_eq.mp isZero
  have exponent := rounds.1.wellFormed.normal.resolve_left (by simp [mantissa])
  obtain ⟨_, _⟩ := x
  exact ⟨rounds.eq_zero mantissa, by simp_all⟩

theorem multiplyByPower_eq_some_iff {k : ℕ} {y : Binary64} :
    multiplyByPower x k = some y ↔ Scales significand k y := by
  unfold multiplyByPower greatestPower
  constructor
  · intro found
    split at found
    · rename_i small
      exact .multiplied small rounds (roundsTo_powerOfTen small)
        (Binary64.times?_eq_some_iff.mp found)
    · rename_i great
      split at found
      · rename_i isZero
        obtain ⟨isNothing, rfl⟩ := eq_zero_of_isZero rounds isZero
        cases found
        exact .zero (not_le.mp great) isNothing
      · cases found
  · intro scales
    generalize isPower : (k : ℤ) = power at scales
    cases scales with
    | multiplied small isX isPowerOfTen isProduct =>
      obtain rfl := Int.ofNat_inj.mp isPower
      rw [if_pos small, rounds.unique isX, (roundsTo_powerOfTen small).unique isPowerOfTen]
      exact Binary64.times?_eq_some_iff.mpr isProduct
    | zero great isNothing =>
      obtain rfl := Int.ofNat_inj.mp isPower
      have isZero : x = ⟨0, -1074⟩ := by
        subst isNothing
        have itself := Binary64.wellFormed_zero.isNearest_value
        rw [Binary64.value_zero] at itself
        exact rounds.unique ⟨by exact_mod_cast itself, by decide⟩
      rw [if_neg (not_le.mpr great), isZero]
      rfl
    | divided | dividedTwice | vanished => omega

theorem divideByPower_eq_some_iff {k : ℕ} (positive : 0 < k) {y : Binary64} :
    divideByPower x k = some y ↔ Scales significand (-k) y := by
  unfold divideByPower greatestPower
  constructor
  · intro found
    split at found
    · rename_i small
      exact .divided positive small rounds (roundsTo_powerOfTen small)
        ((over?_powerOfTen_eq_some_iff small).mp found)
    · rename_i great
      split at found
      · rename_i twice
        obtain ⟨quotient, isQuotient, isResult⟩ := Option.bind_eq_some_iff.mp found
        have least : k - 308 ≤ 308 := by omega
        exact .dividedTwice (not_le.mp great) twice rounds (roundsTo_powerOfTen le_rfl)
          ((over?_powerOfTen_eq_some_iff le_rfl).mp isQuotient) (roundsTo_powerOfTen least)
          ((over?_powerOfTen_eq_some_iff least).mp isResult)
      · rename_i beyond
        obtain rfl : y = ⟨0, -1074⟩ := (Option.some.inj found).symm
        exact .vanished (by omega)
  · intro scales
    generalize isPower : -(k : ℤ) = power at scales
    cases scales with
    | divided _ small isX isPowerOfTen isQuotient =>
      obtain rfl := Int.ofNat_inj.mp (neg_inj.mp isPower)
      rw [if_pos small, rounds.unique isX]
      rw [← (roundsTo_powerOfTen small).unique isPowerOfTen] at isQuotient
      exact (over?_powerOfTen_eq_some_iff small).mpr isQuotient
    | dividedTwice great twice isX isGreatest isQuotient isPowerOfTen isResult =>
      obtain rfl := Int.ofNat_inj.mp (neg_inj.mp isPower)
      have least : k - 308 ≤ 308 := by omega
      rw [← (roundsTo_powerOfTen le_rfl).unique isGreatest] at isQuotient
      rw [← (roundsTo_powerOfTen least).unique isPowerOfTen] at isResult
      rw [if_neg (not_le.mpr great), if_pos twice, rounds.unique isX,
        (over?_powerOfTen_eq_some_iff le_rfl).mpr isQuotient, Option.bind_some]
      exact (over?_powerOfTen_eq_some_iff least).mpr isResult
    | vanished beyond =>
      obtain rfl := Int.ofNat_inj.mp (neg_inj.mp isPower)
      rw [if_neg (by omega), if_neg (by omega)]
      rfl
    | multiplied | zero => omega

end

/-- The double that a number without its sign is read as. Digits of the fraction are appended to the
significand as long as they fit, also when digits before the point did not. -/
inductive ReadsAs (numeral : Numeral) : Binary64 → Prop where
  | mk {taken left fractionTaken fractionLeft : List Char} {power : ℤ} {x : Binary64} :
      Leading 0 numeral.whole taken left →
      Leading (Nat.ofDigitChars 10 taken 0) numeral.fraction fractionTaken fractionLeft →
      WrittenPower numeral.exponent power →
      Scales (Nat.ofDigitChars 10 (taken ++ fractionTaken) 0)
        (left.length - fractionTaken.length + power) x →
      ReadsAs numeral x

theorem scale_eq_some_iff {significand : ℕ} {x : Binary64} (rounds : RoundsTo significand x)
    (power : ℤ) {y : Binary64} :
    (match power with
      | .ofNat k => multiplyByPower x k
      | .negSucc k => divideByPower x (k + 1)) = some y ↔ Scales significand power y := by
  cases power with
  | ofNat k => exact multiplyByPower_eq_some_iff rounds
  | negSucc k => exact divideByPower_eq_some_iff rounds k.succ_pos

theorem double?_eq_some_iff {numeral : Numeral} {x : Binary64} :
    numeral.double? = some x ↔ numeral.ReadsAs x := by
  obtain ⟨taken, isTaken, isLeading⟩ := exists_leading (by norm_num : 0 < 2 ^ 64) numeral.whole
  obtain ⟨fractionTaken, isFractionTaken, isSignificand⟩ :=
    exists_leading isTaken.fits numeral.fraction
  have small := isFractionTaken.fits
  rw [← isLeading] at isFractionTaken isSignificand small
  unfold double?
  generalize takeDigits 0 numeral.whole = first at *
  obtain ⟨leading, left⟩ := first
  simp only at *
  generalize takeDigits leading numeral.fraction = second at *
  obtain ⟨significand, fractionLeft⟩ := second
  simp only at *
  rw [← isSignificand] at small
  have lengths : numeral.fraction.length - fractionLeft.length = fractionTaken.length := by
    have := congrArg List.length isFractionTaken.split
    rw [List.length_append] at this
    omega
  have isWhole : significand = Nat.ofDigitChars 10 (taken ++ fractionTaken) 0 := by
    rw [Nat.ofDigitChars_append, ← isLeading, isSignificand]
  obtain ⟨y, rounds⟩ := Binary64.exists_roundsTo small
  rw [Binary64.ofNat?_eq_some_iff.mpr rounds, lengths]
  refine (scale_eq_some_iff rounds _).trans ?_
  constructor
  · intro scales
    rw [isWhole] at scales
    exact .mk isTaken (isLeading ▸ isFractionTaken) (writtenPower_iff.mpr rfl) scales
  · rintro ⟨isTaken', isFractionTaken', isPower, scales⟩
    obtain ⟨rfl, rfl⟩ := isTaken.unique isTaken'
    obtain ⟨rfl, rfl⟩ := (isLeading ▸ isFractionTaken).unique isFractionTaken'
    rw [isWhole, writtenPower_iff.mp isPower]
    exact scales

theorem Scales.isFinite {significand : ℕ} {power : ℤ} {x : Binary64}
    (scales : Scales significand power x) : x.WellFormed ∧ x.exponent ≤ 971 := by
  cases scales with
  | multiplied _ _ _ rounds => exact ⟨rounds.1.wellFormed, rounds.2⟩
  | divided _ _ _ _ rounds => exact ⟨rounds.1.wellFormed, rounds.2⟩
  | dividedTwice _ _ _ _ _ _ rounds => exact ⟨rounds.1.wellFormed, rounds.2⟩
  | vanished | zero => exact ⟨Binary64.wellFormed_zero, by decide⟩

/-! ## Texts -/

/-- The number is an integer of 64 bits, with or without a sign. Zero with a sign is none. -/
inductive IsWord : Numeral → ℤ → Prop where
  | unsigned {whole : List Char} :
      Nat.ofDigitChars 10 whole 0 < 2 ^ 64 →
      IsWord ⟨false, whole, [], none⟩ (Nat.ofDigitChars 10 whole 0)
  | signed {whole : List Char} :
      0 < Nat.ofDigitChars 10 whole 0 → Nat.ofDigitChars 10 whole 0 ≤ 2 ^ 63 →
      IsWord ⟨true, whole, [], none⟩ (-Nat.ofDigitChars 10 whole 0)

/-- The text of a number. Doubles are written out from `10 ^ -5` up to `10 ^ 16`. -/
inductive IsText (numeral : Numeral) : String → Prop where
  | word {n : ℤ} : IsWord numeral n → IsText numeral (toString n)
  | double {x : Binary64} {d : Decimal} {digits : List Char} :
      (∀ n, ¬ IsWord numeral n) → ReadsAs numeral x → d.IsShortest x →
      Decimal.IsText ⟨-5, 15⟩ d.value digits →
      IsText numeral (String.ofList ((if numeral.negative then ['-'] else []) ++ digits))

/-- The number is an integer of 64 bits or in the range of doubles. -/
def InRange (numeral : Numeral) : Prop :=
  (∃ n, IsWord numeral n) ∨ ∃ x, ReadsAs numeral x

/-- The text of an integer: a minus sign perhaps, and digits. -/
theorem toString_int (value : ℤ) :
    toString value =
      String.ofList ((if value < 0 then ['-'] else []) ++ Nat.toDigits 10 value.natAbs) := by
  apply String.toList_injective
  rw [String.toList_ofList]
  cases value with
  | ofNat n =>
    have notNegative : ¬ Int.ofNat n < 0 := Int.not_lt.mpr (Int.natCast_nonneg n)
    rw [if_neg notNegative]
    exact Nat.toList_repr
  | negSucc n =>
    rw [if_pos (Int.negSucc_lt_zero n)]
    exact (String.toList_append).trans (congrArg (['-'] ++ ·) Nat.toList_repr)

theorem text?_of_isWord {numeral : Numeral} {n : ℤ} (isWord : IsWord numeral n) :
    numeral.text? = some (toString n) := by
  rw [toString_int]
  cases isWord with
  | unsigned small =>
    have fits : decide (Nat.ofDigitChars 10 _ 0 < UInt64.size) = true := decide_eq_true small
    rw [if_neg (by omega)]
    simp [text?, isInteger, wholeValue, fits]
  | signed positive small =>
    have fits : decide (Nat.ofDigitChars 10 _ 0 < Nat.pow 2 63 + 1) = true :=
      decide_eq_true (Nat.lt_succ_of_le small)
    rw [if_pos (by omega)]
    simp [text?, isInteger, wholeValue, fits, positive.ne']

theorem text?_of_noWord {numeral : Numeral} (noWord : ∀ n, ¬ IsWord numeral n) :
    numeral.text? = numeral.double?.map fun x =>
      String.ofList ((if numeral.negative then ['-'] else []) ++ x.shortest.chars format) := by
  refine if_neg fun checks => ?_
  obtain ⟨negative, whole, fraction, exponent⟩ := numeral
  simp only [isInteger, wholeValue, Bool.and_eq_true, List.isEmpty_iff,
    Option.isNone_iff_eq_none] at checks
  obtain ⟨⟨⟨rfl, rfl⟩, fits⟩, notZero⟩ := checks
  cases negative with
  | false => exact noWord _ (.unsigned (of_decide_eq_true fits))
  | true =>
    have positive : Nat.ofDigitChars 10 whole 0 ≠ 0 := by simpa using notZero
    exact noWord _ (.signed (Nat.pos_of_ne_zero positive)
      (Nat.le_of_lt_succ (of_decide_eq_true fits)))

theorem ReadsAs.isFinite {numeral : Numeral} {x : Binary64} (readsAs : ReadsAs numeral x) :
    x.WellFormed ∧ x.exponent ≤ 971 := by
  obtain ⟨_, _, _, scales⟩ := readsAs
  exact scales.isFinite

/-- A number has the text that it should have, and no other. -/
theorem text?_eq_some_iff {numeral : Numeral} {text : String} :
    numeral.text? = some text ↔ IsText numeral text := by
  constructor
  · intro hasText
    by_cases isWord : ∃ n, IsWord numeral n
    · obtain ⟨n, isWord⟩ := isWord
      rw [text?_of_isWord isWord] at hasText
      cases hasText
      exact .word isWord
    · have noWord := not_exists.mp isWord
      rw [text?_of_noWord noWord] at hasText
      obtain ⟨x, isDouble, rfl⟩ := Option.map_eq_some_iff.mp hasText
      have readsAs := double?_eq_some_iff.mp isDouble
      obtain ⟨wellFormed, finite⟩ := readsAs.isFinite
      have isShortest := Binary64.isShortest_shortest wellFormed finite
      exact .double noWord readsAs isShortest (Decimal.isText_chars format isShortest.isReduced)
  · intro isText
    cases isText with
    | word isWord => exact text?_of_isWord isWord
    | @double x d digits noWord readsAs isShortest isText =>
      obtain ⟨wellFormed, finite⟩ := readsAs.isFinite
      have found := Binary64.isShortest_shortest wellFormed finite
      rw [Binary64.value_shortest_eq wellFormed finite isShortest] at isText
      rw [text?_of_noWord noWord, double?_eq_some_iff.mpr readsAs, Option.map_some,
        (Decimal.isText_chars format found.isReduced).unique isText]

theorem text?_isSome_iff {numeral : Numeral} : numeral.text?.isSome = true ↔ numeral.InRange := by
  unfold InRange
  by_cases isWord : ∃ n, IsWord numeral n
  · obtain ⟨n, isWord⟩ := isWord
    rw [text?_of_isWord isWord]
    exact ⟨fun _ => .inl ⟨n, isWord⟩, fun _ => rfl⟩
  · rw [text?_of_noWord (not_exists.mp isWord), Option.isSome_map, Option.isSome_iff_exists]
    simp only [isWord, false_or, double?_eq_some_iff]

end Numeral

end SearchQuery
