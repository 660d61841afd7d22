import SearchQuery.Proofs.Decimal.Shortest
import SearchQuery.Proofs.Json.Numeral

/-!
# The text of a decimal

`IsText` says how a number that is not negative is written: with a point and no exponent within the
bounds of the format, and elsewhere with one digit before the point and an exponent, without digits
that could be left out. A decimal without trailing zeros is written in this way (`isText_chars`), and
a shortest decimal has none.
-/

set_option autoImplicit false

namespace SearchQuery.Decimal

/-- The number is zero or its first digit is within the bounds of the format. -/
def WrittenOut (format : Format) (q : ℚ) : Prop :=
  q = 0 ∨ 10 ^ format.leastWrittenOut ≤ q ∧ q < 10 ^ (format.greatestWrittenOut + 1)

inductive IsText (format : Format) (q : ℚ) : List Char → Prop where
  | writtenOut {whole : ℕ} {fraction : List Char} :
      WrittenOut format q →
      (∀ c ∈ fraction, c.isDigit = true) → fraction ≠ [] →
      (fraction.getLast? = some '0' → fraction = ['0']) →
      q = whole + Nat.ofDigitChars 10 fraction 0 / 10 ^ fraction.length →
      IsText format q (Nat.toDigits 10 whole ++ '.' :: fraction)
  | withExponent {first : Char} {fraction : List Char} {power : ℤ} :
      ¬ WrittenOut format q →
      (∀ c ∈ first :: fraction, c.isDigit = true) → first ≠ '0' → fraction.getLast? ≠ some '0' →
      q = Nat.ofDigitChars 10 (first :: fraction) 0 * 10 ^ (power - fraction.length) →
      IsText format q (first :: Numeral.fractionChars fraction ++
        'e' :: (if power < 0 then '-' else '+') :: Nat.toDigits 10 power.natAbs)

/-! ## Digits -/

theorem toDigits_mul_power {n : ℕ} (positive : 0 < n) (k : ℕ) :
    Nat.toDigits 10 (n * 10 ^ k) = Nat.toDigits 10 n ++ List.replicate k '0' := by
  induction k with
  | zero => simp
  | succ k ih =>
    have last := Nat.toDigits_append_toDigits (b := 10) (n := n * 10 ^ k) (d := 0) (by norm_num)
      (Nat.mul_pos positive (Nat.pow_pos (by norm_num))) (by norm_num)
    rw [show n * 10 ^ (k + 1) = 10 * (n * 10 ^ k) + 0 by ring, ← last, ih, Nat.toDigits_zero,
      List.append_assoc, ← List.replicate_succ']

/-- The last digits of a number stand behind those of the quotient by a power of ten. -/
theorem exists_toDigits_eq_append {n k : ℕ} (large : 10 ^ k ≤ n) :
    ∃ low : List Char, low.length = k ∧
      Nat.toDigits 10 n = Nat.toDigits 10 (n / 10 ^ k) ++ low := by
  induction k generalizing n with
  | zero => exact ⟨[], rfl, by simp⟩
  | succ k ih =>
    have quotient : 10 ^ k ≤ n / 10 := by
      rw [Nat.le_div_iff_mul_le (by norm_num), ← Nat.pow_succ]
      exact large
    obtain ⟨low, isLow, split⟩ := ih quotient
    have base : 10 ≤ n := by
      have : 0 < 10 ^ k := Nat.pow_pos (by norm_num)
      omega
    refine ⟨low ++ [(n % 10).digitChar], by simp [isLow], ?_⟩
    rw [Nat.toDigits_of_base_le (by norm_num) base, split, Nat.div_div_eq_div_mul, Nat.pow_succ',
      List.append_assoc]

theorem getLast?_toDigits (n : ℕ) :
    (Nat.toDigits 10 n).getLast? = some (n % 10).digitChar := by
  rw [Nat.toDigits_eq_if (by norm_num)]
  split
  · rename_i small
    rw [Nat.mod_eq_of_lt small]
    rfl
  · exact List.getLast?_concat

/-- No digit of the decimal could be left out. -/
def IsReduced (d : Decimal) : Prop :=
  d.digits = 0 ∨ d.digits % 10 ≠ 0

theorem IsShortest.isReduced {d : Decimal} {x : Binary64} (isShortest : d.IsShortest x) :
    d.IsReduced := by
  by_contra superfluous
  obtain ⟨notZero, last⟩ := not_or.mp superfluous
  have shorter : Decimal.value ⟨d.digits / 10, d.exponent + 1⟩ = d.value := by
    rw [value_finer _ (by omega : d.exponent ≤ d.exponent + 1), value, value]
    simp only
    rw [show d.digits / 10 * 10 ^ (d.exponent + 1 - d.exponent).toNat = d.digits by
      rw [show (d.exponent + 1 - d.exponent).toNat = 1 by omega]
      omega]
  have fewest := isShortest.fewest ⟨d.digits / 10, d.exponent + 1⟩ (shorter ▸ isShortest.rounds)
  rw [length, length, Nat.toDigits_of_base_le (n := d.digits) (by norm_num) (by omega)] at fewest
  simp at fewest

/-! ## The written form -/

theorem value_eq_div {d : Decimal} {k : ℕ} (isExponent : d.exponent = -k) :
    d.value = d.digits / 10 ^ k := by
  rw [value, isExponent, zpow_neg, zpow_natCast, div_eq_mul_inv]

/-- The power of ten of the first digit. -/
def leading (d : Decimal) : ℤ :=
  d.exponent + d.length - 1

theorem writtenOut_iff (format : Format) {d : Decimal} (positive : 0 < d.digits) :
    WrittenOut format d.value ↔
      format.leastWrittenOut ≤ d.leading ∧ d.leading ≤ format.greatestWrittenOut := by
  have above := le_value positive
  have below := d.value_lt
  have isPositive : 0 < d.value := lt_of_lt_of_le (by positivity) above
  have ten : (1 : ℚ) < 10 := by norm_num
  unfold leading
  constructor
  · rintro (isZero | ⟨least, greatest⟩)
    · exact absurd isZero isPositive.ne'
    · have low := (zpow_lt_zpow_iff_right₀ ten).mp (least.trans_lt below)
      have high := (zpow_lt_zpow_iff_right₀ ten).mp (above.trans_lt greatest)
      omega
  · rintro ⟨least, greatest⟩
    refine .inr ⟨le_trans (zpow_le_zpow_right₀ ten.le ?_) above,
      below.trans_le (zpow_le_zpow_right₀ ten.le ?_)⟩ <;> omega

theorem digitChar_ne_zero_of_mod {n : ℕ} (last : n % 10 ≠ 0) : (n % 10).digitChar ≠ '0' :=
  Numeral.digitChar_ne_zero (n % 10) (Nat.mod_lt n (by norm_num)) (Nat.pos_of_ne_zero last)

section

variable {d : Decimal} (last : d.digits % 10 ≠ 0)
include last

theorem getLast?_append_toDigits (ahead : List Char) :
    (ahead ++ Nat.toDigits 10 d.digits).getLast? ≠ some '0' := by
  rw [List.getLast?_append, getLast?_toDigits, Option.some_or]
  exact fun same => digitChar_ne_zero_of_mod last (Option.some.inj same)

/-- Before the first digit of a number below one there are zeros. -/
theorem isText_below_one {format : Format} (isWrittenOut : WrittenOut format d.value) {k : ℕ}
    (isLeading : d.leading = Int.negSucc k) :
    IsText format d.value
      ('0' :: '.' :: (List.replicate k '0' ++ Nat.toDigits 10 d.digits)) := by
  have isExponent : d.exponent = -(k + d.length : ℕ) := by
    unfold leading at isLeading
    omega
  have notEmpty : List.replicate k '0' ++ Nat.toDigits 10 d.digits ≠ [] := by simp
  refine @IsText.writtenOut format d.value 0 _ isWrittenOut ?_ notEmpty (fun isZero => ?_) ?_
  · intro c member
    obtain isZero | isDigit := List.mem_append.mp member
    · rw [List.eq_of_mem_replicate isZero]
      rfl
    · exact Nat.isDigit_of_mem_toDigits (by norm_num) (by norm_num) isDigit
  · exact absurd isZero (getLast?_append_toDigits last _)
  · rw [value_eq_div isExponent, Nat.ofDigitChars_append, Nat.ofDigitChars_replicate_zero,
      Nat.mul_zero, Nat.ofDigitChars_ten_toDigits, List.length_append, List.length_replicate,
      Nat.cast_zero, zero_add, length]

/-- Behind the last digit of an integer there are zeros. -/
theorem isText_integer {format : Format} (isWrittenOut : WrittenOut format d.value) {k : ℕ}
    (isExponent : d.exponent = k) :
    IsText format d.value
      (Nat.toDigits 10 d.digits ++ List.replicate k '0' ++ ['.', '0']) := by
  rw [← toDigits_mul_power (by omega)]
  refine .writtenOut isWrittenOut (by simp) (by simp) (by simp) ?_
  rw [value, isExponent, zpow_natCast, Nat.ofDigitChars_cons, Nat.ofDigitChars_nil]
  push_cast
  norm_num

theorem isText_split {format : Format} (isWrittenOut : WrittenOut format d.value) {k : ℕ}
    (short : k < d.length) (positive : 0 < k) (isExponent : d.exponent = -(d.length - k : ℕ)) :
    IsText format d.value
      ((Nat.toDigits 10 d.digits).take k ++ '.' :: (Nat.toDigits 10 d.digits).drop k) := by
  have large : 10 ^ (d.length - k) ≤ d.digits :=
    le_trans (Nat.pow_le_pow_right (by norm_num) (by omega)) (power_le_digits (by omega))
  obtain ⟨low, isLow, split⟩ := exists_toDigits_eq_append large
  have isLength : (Nat.toDigits 10 (d.digits / 10 ^ (d.length - k))).length = k := by
    have := congrArg List.length split
    rw [List.length_append, isLow] at this
    unfold length at *
    omega
  have notEmpty : low ≠ [] := by
    rintro rfl
    simp at isLow
    omega
  have isValue : d.digits = 10 ^ low.length * (d.digits / 10 ^ (d.length - k)) +
      Nat.ofDigitChars 10 low 0 := by
    have value := congrArg (Nat.ofDigitChars 10 · 0) split
    simp only [Nat.ofDigitChars_append, Nat.ofDigitChars_ten_toDigits] at value
    rwa [Nat.ofDigitChars_eq_ofDigitChars_zero] at value
  rw [split, List.take_left' isLength, List.drop_left' isLength]
  refine .writtenOut isWrittenOut (fun c member => ?_) notEmpty (fun isZero => ?_) ?_
  · exact Nat.isDigit_of_mem_toDigits (by norm_num) (by norm_num)
      (split ▸ List.mem_append_right _ member)
  · have lastDigit := getLast?_toDigits d.digits
    rw [split, List.getLast?_append, isZero] at lastDigit
    exact absurd (Option.some.inj lastDigit).symm (digitChar_ne_zero_of_mod last)
  · rw [value_eq_div isExponent, ← isLow, div_eq_iff (by positivity), add_mul,
      div_mul_cancel₀ _ (by positivity), mul_comm]
    rw [← isLow] at isValue
    exact_mod_cast isValue

theorem isText_writtenOut {format : Format} (isWrittenOut : WrittenOut format d.value) :
    IsText format d.value (writtenOut (Nat.toDigits 10 d.digits) d.leading) := by
  have isLength : (Nat.toDigits 10 d.digits).length = d.length := rfl
  unfold writtenOut
  split
  · rename_i k isLeading
    exact isText_below_one last isWrittenOut isLeading
  · rename_i k isLeading
    rw [isLength]
    rw [leading, Int.ofNat_eq_natCast] at isLeading
    split
    · rename_i short
      exact isText_integer last isWrittenOut (by omega)
    · rename_i notShort
      exact isText_split last isWrittenOut (by omega) (by omega) (by omega)

omit last in
theorem withExponent_cons (first : Char) (rest : List Char) (power : ℤ) :
    withExponent (first :: rest) power =
      first :: Numeral.fractionChars rest ++
        'e' :: (if power < 0 then '-' else '+') :: Nat.toDigits 10 power.natAbs := by
  cases power with
  | ofNat k => cases rest <;> rfl
  | negSucc k =>
    rw [if_pos (Int.negSucc_lt_zero k)]
    cases rest <;> rfl

theorem isText_withExponent {format : Format} (notWrittenOut : ¬ WrittenOut format d.value) :
    IsText format d.value (withExponent (Nat.toDigits 10 d.digits) d.leading) := by
  obtain ⟨first, rest, isDigits⟩ :=
    List.exists_cons_of_ne_nil (Nat.toDigits_ne_nil : Nat.toDigits 10 d.digits ≠ [])
  have isLength : d.length = rest.length + 1 := by rw [length, isDigits, List.length_cons]
  rw [isDigits, withExponent_cons]
  refine .withExponent notWrittenOut (fun c member => ?_) ?_ ?_ ?_
  · exact Nat.isDigit_of_mem_toDigits (by norm_num) (by norm_num) (isDigits ▸ member)
  · rintro rfl
    exact Numeral.head_toDigits_ne_zero (n := d.digits) (by omega) (by rw [isDigits]; rfl)
  · intro isZero
    have lastDigit := getLast?_toDigits d.digits
    rw [isDigits, List.getLast?_cons, isZero] at lastDigit
    exact absurd (Option.some.inj lastDigit).symm (digitChar_ne_zero_of_mod last)
  · rw [← isDigits, Nat.ofDigitChars_ten_toDigits, value]
    congr 2
    unfold leading
    omega

end

theorem isText_chars (format : Format) {d : Decimal} (reduced : d.IsReduced) :
    IsText format d.value (d.chars format) := by
  unfold chars
  split
  · rename_i isZero
    have zero : d.value = 0 := by simp [value, isZero]
    refine @IsText.writtenOut format d.value 0 ['0'] (.inl zero) (by simp) (by simp) (by simp) ?_
    rw [zero, Nat.ofDigitChars_cons, Nat.ofDigitChars_nil]
    norm_num
  · rename_i notZero
    have positive := Nat.pos_of_ne_zero notZero
    have last := reduced.resolve_left notZero
    change IsText format d.value
      (if format.leastWrittenOut ≤ d.leading ∧ d.leading ≤ format.greatestWrittenOut then
        writtenOut (Nat.toDigits 10 d.digits) d.leading
      else Decimal.withExponent (Nat.toDigits 10 d.digits) d.leading)
    split
    · rename_i within
      exact isText_writtenOut last ((writtenOut_iff format positive).mpr within)
    · rename_i beyond
      exact isText_withExponent last (mt (writtenOut_iff format positive).mp beyond)

/-! ## A number has one text -/

theorem ofDigitChars_cons_zero (c : Char) (rest : List Char) :
    Nat.ofDigitChars 10 (c :: rest) 0 =
      10 ^ rest.length * (c.toNat - '0'.toNat) + Nat.ofDigitChars 10 rest 0 := by
  rw [Nat.ofDigitChars_cons, Nat.ofDigitChars_eq_ofDigitChars_zero, Nat.mul_zero, Nat.zero_add]

theorem digit_le {c : Char} (isDigit : c.isDigit = true) : c.toNat - '0'.toNat ≤ 9 := by
  have nine : '9'.toNat = '0'.toNat + 9 := rfl
  have := Char.isDigit_iff_toNat.mp isDigit
  omega

theorem ofDigitChars_lt {digits : List Char} (areDigits : ∀ c ∈ digits, c.isDigit = true) :
    Nat.ofDigitChars 10 digits 0 < 10 ^ digits.length := by
  induction digits with
  | nil => simp
  | cons c rest ih =>
    obtain ⟨isDigit, areDigits⟩ := List.forall_mem_cons.mp areDigits
    have below := ih areDigits
    rw [ofDigitChars_cons_zero, List.length_cons, Nat.pow_succ]
    have := Nat.mul_le_mul_left (10 ^ rest.length) (digit_le isDigit)
    omega

theorem eq_of_mul_add_eq {base first other rest otherRest : ℕ} (small : rest < base)
    (otherSmall : otherRest < base) (same : base * first + rest = base * other + otherRest) :
    first = other ∧ rest = otherRest := by
  have quotients := congrArg (· / base) same
  have positive : 0 < base := by omega
  simp only [Nat.mul_add_div positive, Nat.div_eq_of_lt small, Nat.div_eq_of_lt otherSmall,
    Nat.add_zero] at quotients
  subst quotients
  exact ⟨rfl, Nat.add_left_cancel same⟩

theorem eq_of_ofDigitChars_eq {digits others : List Char}
    (areDigits : ∀ c ∈ digits, c.isDigit = true) (areOthers : ∀ c ∈ others, c.isDigit = true)
    (sameLength : digits.length = others.length)
    (same : Nat.ofDigitChars 10 digits 0 = Nat.ofDigitChars 10 others 0) : digits = others := by
  induction digits generalizing others with
  | nil => exact (List.eq_nil_of_length_eq_zero sameLength.symm).symm
  | cons c rest ih =>
    cases others with
    | nil => cases sameLength
    | cons other others =>
      obtain ⟨isDigit, areDigits⟩ := List.forall_mem_cons.mp areDigits
      obtain ⟨isOther, areOthers⟩ := List.forall_mem_cons.mp areOthers
      have sameLength : rest.length = others.length := Nat.succ.inj sameLength
      have small := ofDigitChars_lt areDigits
      have otherSmall := ofDigitChars_lt areOthers
      rw [ofDigitChars_cons_zero, ofDigitChars_cons_zero, ← sameLength] at same
      rw [← sameLength] at otherSmall
      obtain ⟨first, later⟩ := eq_of_mul_add_eq small otherSmall same
      have isChar : c = other := by
        have := Char.isDigit_iff_toNat.mp isDigit
        have := Char.isDigit_iff_toNat.mp isOther
        exact Char.toNat_inj.mp (by omega)
      rw [isChar, ih areDigits areOthers sameLength later]

theorem eq_append_zeros {digits others : List Char}
    (areDigits : ∀ c ∈ digits, c.isDigit = true) (areOthers : ∀ c ∈ others, c.isDigit = true)
    (same : Nat.ofDigitChars 10 digits 0 * 10 ^ others.length =
      Nat.ofDigitChars 10 others 0 * 10 ^ digits.length)
    (shorter : digits.length ≤ others.length) :
    others = digits ++ List.replicate (others.length - digits.length) '0' := by
  obtain ⟨k, longer⟩ := Nat.exists_eq_add_of_le shorter
  rw [longer, Nat.add_sub_cancel_left]
  refine eq_of_ofDigitChars_eq areOthers (fun c member => ?_) (by simp [longer]) ?_
  · obtain isDigit | isZero := List.mem_append.mp member
    · exact areDigits c isDigit
    · rw [List.eq_of_mem_replicate isZero]
      rfl
  · rw [longer, Nat.pow_add, ← Nat.mul_assoc, Nat.mul_right_comm] at same
    have positive : 0 < 10 ^ digits.length := Nat.pow_pos (by norm_num)
    rw [Nat.ofDigitChars_append, Nat.ofDigitChars_replicate_zero, Nat.mul_comm,
      ← Nat.eq_of_mul_eq_mul_right positive same]

/-- Digits that do not end in a zero that could be left out are known from the number that they are
behind the point. -/
theorem eq_of_fraction_eq {digits others : List Char}
    (areDigits : ∀ c ∈ digits, c.isDigit = true) (areOthers : ∀ c ∈ others, c.isDigit = true)
    (same : Nat.ofDigitChars 10 digits 0 * 10 ^ others.length =
      Nat.ofDigitChars 10 others 0 * 10 ^ digits.length)
    (othersReduced : digits.length < others.length → others.getLast? ≠ some '0')
    (digitsReduced : others.length < digits.length → digits.getLast? ≠ some '0') :
    digits = others := by
  have endsInZero (ahead : List Char) {k : ℕ} (positive : 0 < k) :
      (ahead ++ List.replicate k '0').getLast? = some '0' := by
    obtain ⟨k, rfl⟩ := Nat.exists_eq_succ_of_ne_zero positive.ne'
    rw [List.replicate_succ', ← List.append_assoc, List.getLast?_concat]
  obtain shorter | sameLength | longer := lt_trichotomy digits.length others.length
  · have isPadded := eq_append_zeros areDigits areOthers same shorter.le
    have last := endsInZero digits (Nat.sub_pos_of_lt shorter)
    rw [← isPadded] at last
    exact absurd last (othersReduced shorter)
  · rw [sameLength] at same
    exact eq_of_ofDigitChars_eq areDigits areOthers sameLength
      (Nat.eq_of_mul_eq_mul_right (Nat.pow_pos (by norm_num)) same)
  · have isPadded := eq_append_zeros areOthers areDigits same.symm longer.le
    have last := endsInZero others (Nat.sub_pos_of_lt longer)
    rw [← isPadded] at last
    exact absurd last (digitsReduced longer)

theorem writtenOut_unique {whole otherWhole : ℕ} {fraction other : List Char}
    (areDigits : ∀ c ∈ fraction, c.isDigit = true) (areOthers : ∀ c ∈ other, c.isDigit = true)
    (notEmpty : fraction ≠ []) (otherNotEmpty : other ≠ [])
    (reduced : fraction.getLast? = some '0' → fraction = ['0'])
    (otherReduced : other.getLast? = some '0' → other = ['0'])
    (same : (whole : ℚ) + Nat.ofDigitChars 10 fraction 0 / 10 ^ fraction.length =
      otherWhole + Nat.ofDigitChars 10 other 0 / 10 ^ other.length) :
    whole = otherWhole ∧ fraction = other := by
  have scaled : 10 ^ fraction.length * 10 ^ other.length * whole +
      Nat.ofDigitChars 10 fraction 0 * 10 ^ other.length =
      10 ^ fraction.length * 10 ^ other.length * otherWhole +
      Nat.ofDigitChars 10 other 0 * 10 ^ fraction.length := by
    field_simp at same
    have scaled : (10 : ℚ) ^ fraction.length * 10 ^ other.length * whole +
        Nat.ofDigitChars 10 fraction 0 * 10 ^ other.length =
        10 ^ fraction.length * 10 ^ other.length * otherWhole +
        Nat.ofDigitChars 10 other 0 * 10 ^ fraction.length := by linarith
    exact_mod_cast scaled
  have small : Nat.ofDigitChars 10 fraction 0 * 10 ^ other.length <
      10 ^ fraction.length * 10 ^ other.length :=
    Nat.mul_lt_mul_of_pos_right (ofDigitChars_lt areDigits) (Nat.pow_pos (by norm_num))
  have otherSmall : Nat.ofDigitChars 10 other 0 * 10 ^ fraction.length <
      10 ^ fraction.length * 10 ^ other.length := by
    rw [Nat.mul_comm (10 ^ fraction.length)]
    exact Nat.mul_lt_mul_of_pos_right (ofDigitChars_lt areOthers) (Nat.pow_pos (by norm_num))
  obtain ⟨isWhole, sameFraction⟩ := eq_of_mul_add_eq small otherSmall scaled
  have long := List.length_pos_of_ne_nil notEmpty
  have otherLong := List.length_pos_of_ne_nil otherNotEmpty
  refine ⟨isWhole, eq_of_fraction_eq areDigits areOthers sameFraction ?_ ?_⟩
  · intro longer isZero
    rw [otherReduced isZero, List.length_singleton] at longer
    omega
  · intro longer isZero
    rw [reduced isZero, List.length_singleton] at longer
    omega

theorem withExponent_bounds {first : Char} {fraction : List Char} {power : ℤ}
    (areDigits : ∀ c ∈ first :: fraction, c.isDigit = true) (notZero : first ≠ '0') :
    (10 : ℚ) ^ power ≤
        Nat.ofDigitChars 10 (first :: fraction) 0 * 10 ^ (power - fraction.length) ∧
      Nat.ofDigitChars 10 (first :: fraction) 0 * 10 ^ (power - fraction.length) <
        (10 : ℚ) ^ (power + 1) := by
  have positive : 1 ≤ first.toNat - '0'.toNat := by
    have isDigit := Char.isDigit_iff_toNat.mp (areDigits first List.mem_cons_self)
    have := mt Char.toNat_inj.mp notZero
    omega
  have low : 10 ^ fraction.length ≤ Nat.ofDigitChars 10 (first :: fraction) 0 := by
    rw [ofDigitChars_cons_zero]
    exact le_add_right (Nat.le_mul_of_pos_right _ positive)
  have low : (10 : ℚ) ^ fraction.length ≤ Nat.ofDigitChars 10 (first :: fraction) 0 := by
    exact_mod_cast low
  have high : (Nat.ofDigitChars 10 (first :: fraction) 0 : ℚ) < 10 ^ (fraction.length + 1) := by
    exact_mod_cast ofDigitChars_lt areDigits
  have split (k : ℕ) : (10 : ℚ) ^ (power - fraction.length + k) =
      10 ^ k * 10 ^ (power - fraction.length) := by
    rw [zpow_add₀ (by norm_num), zpow_natCast, mul_comm]
  constructor
  · rw [show power = power - fraction.length + fraction.length by ring, split]
    simp only [add_sub_cancel_right]
    gcongr
  · rw [show power + 1 = power - fraction.length + (fraction.length + 1 : ℕ) by push_cast; ring,
      split]
    gcongr

theorem withExponent_unique {first otherFirst : Char} {fraction other : List Char}
    {power otherPower : ℤ} (areDigits : ∀ c ∈ first :: fraction, c.isDigit = true)
    (areOthers : ∀ c ∈ otherFirst :: other, c.isDigit = true)
    (notZero : first ≠ '0') (otherNotZero : otherFirst ≠ '0')
    (reduced : fraction.getLast? ≠ some '0') (otherReduced : other.getLast? ≠ some '0')
    (same : (Nat.ofDigitChars 10 (first :: fraction) 0 : ℚ) * 10 ^ (power - fraction.length) =
      Nat.ofDigitChars 10 (otherFirst :: other) 0 * 10 ^ (otherPower - other.length)) :
    power = otherPower ∧ first :: fraction = otherFirst :: other := by
  have ten : (1 : ℚ) < 10 := by norm_num
  have bounds := @withExponent_bounds first fraction power areDigits notZero
  have otherBounds := @withExponent_bounds otherFirst other otherPower areOthers otherNotZero
  rw [same] at bounds
  have samePower : power = otherPower := by
    have := (zpow_lt_zpow_iff_right₀ ten).mp (bounds.1.trans_lt otherBounds.2)
    have := (zpow_lt_zpow_iff_right₀ ten).mp (otherBounds.1.trans_lt bounds.2)
    omega
  subst samePower
  have scaled : Nat.ofDigitChars 10 (first :: fraction) 0 * 10 ^ (otherFirst :: other).length =
      Nat.ofDigitChars 10 (otherFirst :: other) 0 * 10 ^ (first :: fraction).length := by
    rw [zpow_sub₀ (by norm_num), zpow_sub₀ (by norm_num), zpow_natCast, zpow_natCast] at same
    field_simp at same
    rw [List.length_cons, List.length_cons, Nat.pow_succ, Nat.pow_succ, ← Nat.mul_assoc,
      ← Nat.mul_assoc]
    congr 1
    rw [Nat.mul_comm _ (10 ^ fraction.length)]
    exact_mod_cast same
  have lastOfCons {c : Char} {rest : List Char} (notEmpty : 0 < rest.length)
      (reduced : rest.getLast? ≠ some '0') : (c :: rest).getLast? ≠ some '0' := by
    rwa [List.getLast?_cons_of_ne_nil (List.ne_nil_of_length_pos notEmpty)]
  refine ⟨rfl, eq_of_fraction_eq areDigits areOthers scaled (fun longer => ?_) fun longer => ?_⟩
  · exact lastOfCons (by simp only [List.length_cons] at longer; omega) otherReduced
  · exact lastOfCons (by simp only [List.length_cons] at longer; omega) reduced

/-- A number has one text. -/
theorem IsText.unique {format : Format} {q : ℚ} {text other : List Char}
    (isText : IsText format q text) (isOther : IsText format q other) : text = other := by
  cases isText with
  | writtenOut isWrittenOut areDigits notEmpty reduced isValue =>
    cases isOther with
    | writtenOut _ areOthers otherNotEmpty otherReduced isOtherValue =>
      obtain ⟨rfl, rfl⟩ := writtenOut_unique areDigits areOthers notEmpty otherNotEmpty reduced
        otherReduced (isValue.symm.trans isOtherValue)
      rfl
    | withExponent notWrittenOut => exact absurd isWrittenOut notWrittenOut
  | withExponent notWrittenOut areDigits notZero reduced isValue =>
    cases isOther with
    | writtenOut isWrittenOut => exact absurd isWrittenOut notWrittenOut
    | withExponent _ areOthers otherNotZero otherReduced isOtherValue =>
      obtain ⟨rfl, isSame⟩ := withExponent_unique areDigits areOthers notZero otherNotZero reduced
        otherReduced (isValue.symm.trans isOtherValue)
      obtain ⟨rfl, rfl⟩ := List.cons.inj isSame
      rfl

end SearchQuery.Decimal
