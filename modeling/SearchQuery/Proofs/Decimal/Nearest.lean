import Mathlib.Algebra.Order.Field.Power
import Mathlib.Algebra.Order.Field.Rat
import Mathlib.Algebra.Ring.Parity
import Mathlib.Tactic.FieldSimp
import Mathlib.Tactic.Linarith
import Mathlib.Tactic.NormNum
import Mathlib.Tactic.Positivity
import Mathlib.Tactic.Ring
import SearchQuery.Decimal.Binary64

/-!
# Rounding to the nearest double

`IsNearest` says which double is nearest to a number, a tie going to the even mantissa, and without
a greatest exponent: a number has no double (`RoundsTo`) if the nearest one has too great an
exponent. The numbers that a double is nearest to are those between the midpoints to the doubles
next to it (`isNearest_iff_covers`), so there is one double for a number at most
(`IsNearest.unique`). Rounding a quotient finds it (`ofRatio?_eq_some_iff`).
-/

set_option autoImplicit false

namespace SearchQuery.Binary64

def value (x : Binary64) : ℚ :=
  x.mantissa * 2 ^ x.exponent

/-- A mantissa of 53 bits, of which the first is set unless the exponent is the least one. -/
structure WellFormed (x : Binary64) : Prop where
  mantissa_lt : x.mantissa < 2 ^ 53
  least_le : -1074 ≤ x.exponent
  normal : 2 ^ 52 ≤ x.mantissa ∨ x.exponent = -1074

structure IsNearest (x : Binary64) (q : ℚ) : Prop where
  wellFormed : x.WellFormed
  nearest : ∀ y : Binary64, y.WellFormed → |q - x.value| ≤ |q - y.value|
  even : ∀ y : Binary64, y.WellFormed → y ≠ x → |q - x.value| = |q - y.value| → Even x.mantissa

/-- The number is rounded to the double, which is finite. -/
def RoundsTo (q : ℚ) (x : Binary64) : Prop :=
  x.IsNearest q ∧ x.exponent ≤ 971

/-! ## Neighbours -/

/-- The least double that is greater. -/
def next (x : Binary64) : Binary64 :=
  if x.mantissa + 1 = 2 ^ 53 then ⟨2 ^ 52, x.exponent + 1⟩ else ⟨x.mantissa + 1, x.exponent⟩

/-- The greatest double that is less. -/
def previous (x : Binary64) : Binary64 :=
  if x.mantissa = 2 ^ 52 ∧ -1074 < x.exponent then ⟨2 ^ 53 - 1, x.exponent - 1⟩
  else ⟨x.mantissa - 1, x.exponent⟩

theorem value_nonneg (x : Binary64) : 0 ≤ x.value := by
  unfold value
  positivity

theorem wellFormed_zero : zero.WellFormed :=
  ⟨by decide, by decide, .inr rfl⟩

@[simp] theorem value_zero : zero.value = 0 := by
  simp [zero, value]

theorem value_next (x : Binary64) : x.next.value = x.value + 2 ^ x.exponent := by
  unfold next
  split
  · rename_i full
    have mantissa : (x.mantissa : ℚ) = 2 ^ 53 - 1 := by
      rw [eq_sub_iff_add_eq]
      exact_mod_cast full
    rw [value, value, mantissa, zpow_add_one₀ two_ne_zero]
    push_cast
    ring
  · rw [value, value]
    push_cast
    ring

theorem value_lt_next (x : Binary64) : x.value < x.next.value := by
  have step : (0 : ℚ) < 2 ^ x.exponent := by positivity
  rw [value_next]
  linarith

theorem WellFormed.next {x : Binary64} (wellFormed : x.WellFormed) : x.next.WellFormed := by
  obtain ⟨mantissa_lt, least_le, normal⟩ := wellFormed
  unfold Binary64.next
  split
  · exact ⟨by norm_num, by simp only; omega, .inl le_rfl⟩
  · exact ⟨by simp only; omega, least_le, by simp only; omega⟩

theorem WellFormed.previous {x : Binary64} (wellFormed : x.WellFormed) (positive : 0 < x.mantissa) :
    x.previous.WellFormed := by
  obtain ⟨mantissa_lt, least_le, normal⟩ := wellFormed
  unfold Binary64.previous
  split
  · exact ⟨by norm_num, by simp only; omega, .inl (by norm_num)⟩
  · exact ⟨by simp only; omega, least_le, by simp only; omega⟩

theorem WellFormed.next_previous {x : Binary64} (wellFormed : x.WellFormed)
    (positive : 0 < x.mantissa) : x.previous.next = x := by
  have := wellFormed.mantissa_lt
  obtain ⟨mantissa, exponent⟩ := x
  unfold Binary64.previous
  split
  · rename_i least
    obtain ⟨rfl, _⟩ := least
    simp [Binary64.next]
  · simp only at *
    rw [Binary64.next, if_neg (by simp only; omega)]
    simp only [Binary64.mk.injEq, and_true]
    omega

theorem next_le_of_exponent_lt {x y : Binary64} (isX : x.WellFormed) (isY : y.WellFormed)
    (finer : x.exponent < y.exponent) : x.next.value ≤ y.value := by
  have normal : (2 : ℚ) ^ 52 ≤ y.mantissa := by
    have := isY.normal
    have := isX.least_le
    exact_mod_cast (by omega : 2 ^ 52 ≤ y.mantissa)
  have short : (x.mantissa : ℚ) + 1 ≤ 2 ^ 53 := by exact_mod_cast isX.mantissa_lt
  have step : (2 : ℚ) ^ (x.exponent + 1) ≤ 2 ^ y.exponent :=
    zpow_le_zpow_right₀ one_le_two (by omega)
  calc
    x.next.value = (x.mantissa + 1) * 2 ^ x.exponent := by rw [value_next, value]; ring
    _ ≤ 2 ^ 53 * 2 ^ x.exponent := by gcongr
    _ = 2 ^ 52 * 2 ^ (x.exponent + 1) := by rw [zpow_add_one₀ two_ne_zero]; ring
    _ ≤ y.mantissa * 2 ^ y.exponent := by gcongr

theorem next_le {x y : Binary64} (isX : x.WellFormed) (isY : y.WellFormed)
    (less : x.value < y.value) : x.next.value ≤ y.value := by
  obtain finer | same | coarser := lt_trichotomy x.exponent y.exponent
  · exact next_le_of_exponent_lt isX isY finer
  · have step : (0 : ℚ) < 2 ^ y.exponent := by positivity
    rw [value, value, same, mul_lt_mul_iff_left₀ step] at less
    have mantissa : (x.mantissa : ℚ) + 1 ≤ y.mantissa := by
      exact_mod_cast less
    rw [value_next, value, value, same, ← add_one_mul]
    gcongr
  · have := next_le_of_exponent_lt isY isX coarser
    linarith [y.value_lt_next]

theorem le_previous {x y : Binary64} (isX : x.WellFormed) (isY : y.WellFormed)
    (positive : 0 < x.mantissa) (less : y.value < x.value) : y.value ≤ x.previous.value := by
  by_contra above
  have := next_le (isX.previous positive) isY (not_le.mp above)
  rw [isX.next_previous positive] at this
  linarith

theorem eq_of_value_eq {x y : Binary64} (isX : x.WellFormed) (isY : y.WellFormed)
    (same : x.value = y.value) : x = y := by
  obtain finer | exponent | coarser := lt_trichotomy x.exponent y.exponent
  · linarith [next_le_of_exponent_lt isX isY finer, x.value_lt_next]
  · have step : (2 : ℚ) ^ y.exponent ≠ 0 := by positivity
    rw [value, value, exponent, mul_left_inj' step] at same
    cases x
    cases y
    simp_all
  · linarith [next_le_of_exponent_lt isY isX coarser, y.value_lt_next]

/-! ## Midpoints -/

theorem abs_sub_le_abs_sub_iff {low high q : ℚ} (less : low < high) :
    |q - low| ≤ |q - high| ↔ q ≤ (low + high) / 2 := by
  rw [← sq_le_sq]
  constructor
  · intro nearer
    nlinarith
  · intro below
    nlinarith

theorem abs_sub_le_abs_sub_iff' {low high q : ℚ} (less : low < high) :
    |q - high| ≤ |q - low| ↔ (low + high) / 2 ≤ q := by
  rw [← sq_le_sq]
  constructor
  · intro nearer
    nlinarith
  · intro above
    nlinarith

theorem abs_sub_lt_of_between {low middle high q : ℚ} (above : low < middle) (below : middle < high)
    (tie : |low - q| = |high - q|) : |middle - q| < |low - q| := by
  obtain same | opposite := abs_eq_abs.mp tie
  · linarith
  · rw [abs_of_neg (by linarith : low - q < 0), abs_lt]
    constructor <;> linarith

/-- The lower bound of the numbers that are rounded to a double. -/
def lower (x : Binary64) : ℚ :=
  if x.mantissa = 0 then 0 else (x.previous.value + x.value) / 2

def upper (x : Binary64) : ℚ :=
  (x.value + x.next.value) / 2

theorem upper_eq (x : Binary64) : x.upper = (x.mantissa + 1 / 2) * 2 ^ x.exponent := by
  rw [upper, value_next, value]
  ring

/-- Below a power of two the doubles lie twice as close. -/
theorem lower_eq (x : Binary64) :
    x.lower =
      if x.mantissa = 0 then 0
      else if x.mantissa = 2 ^ 52 ∧ -1074 < x.exponent then
        ((x.mantissa : ℚ) - 1 / 4) * 2 ^ x.exponent
      else ((x.mantissa : ℚ) - 1 / 2) * 2 ^ x.exponent := by
  unfold lower previous
  split
  · rfl
  · rename_i notZero
    split
    · rename_i power
      have mantissa : (x.mantissa : ℚ) = 2 ^ 52 := by exact_mod_cast power.1
      rw [value, value, mantissa, zpow_sub_one₀ two_ne_zero]
      push_cast
      ring
    · rw [value, value, Nat.cast_sub (Nat.one_le_iff_ne_zero.mpr notZero)]
      push_cast
      ring

/-- The number lies between the bounds of a double, which belong to it if its mantissa is even. -/
structure Covers (x : Binary64) (q : ℚ) : Prop where
  lower_le : x.lower ≤ q
  le_upper : q ≤ x.upper
  even : q = x.lower ∨ q = x.upper → Even x.mantissa

theorem Covers.convex {x : Binary64} {low q high : ℚ} (coversLow : x.Covers low)
    (coversHigh : x.Covers high) (above : low ≤ q) (below : q ≤ high) : x.Covers q where
  lower_le := coversLow.lower_le.trans above
  le_upper := below.trans coversHigh.le_upper
  even := by
    rintro (rfl | rfl)
    · exact coversLow.even (.inl (le_antisymm above coversLow.lower_le))
    · exact coversHigh.even (.inr (le_antisymm coversHigh.le_upper below))

theorem WellFormed.lower_lt {x : Binary64} (wellFormed : x.WellFormed)
    (positive : 0 < x.mantissa) : x.lower < x.value := by
  have below := x.previous.value_lt_next
  rw [wellFormed.next_previous positive] at below
  rw [lower, if_neg positive.ne']
  linarith

theorem lt_upper (x : Binary64) : x.value < x.upper := by
  have := x.value_lt_next
  rw [upper]
  linarith

theorem WellFormed.lower_le_midpoint {x y : Binary64} (isX : x.WellFormed) (isY : y.WellFormed)
    (less : y.value < x.value) : (y.value + x.value) / 2 ≤ x.lower := by
  have positive : 0 < x.mantissa := by
    by_contra isZero
    have : x.value = 0 := by simp [value, Nat.eq_zero_of_not_pos isZero]
    linarith [y.value_nonneg]
  have := le_previous isX isY positive less
  rw [lower, if_neg positive.ne']
  linarith

theorem WellFormed.midpoint_le_upper {x y : Binary64} (isX : x.WellFormed) (isY : y.WellFormed)
    (less : x.value < y.value) : x.upper ≤ (x.value + y.value) / 2 := by
  have := next_le isX isY less
  rw [upper]
  linarith

theorem Covers.isNearest {x : Binary64} {q : ℚ} (wellFormed : x.WellFormed) (covers : x.Covers q) :
    x.IsNearest q := by
  have bounds := covers.lower_le
  have := covers.le_upper
  refine ⟨wellFormed, fun y isY => ?_, fun y isY different tie => covers.even ?_⟩
  · obtain less | same | greater := lt_trichotomy y.value x.value
    · have := wellFormed.lower_le_midpoint isY less
      exact (abs_sub_le_abs_sub_iff' less).mpr (by linarith)
    · rw [same]
    · have := wellFormed.midpoint_le_upper isY greater
      exact (abs_sub_le_abs_sub_iff greater).mpr (by linarith)
  · obtain less | same | greater := lt_trichotomy y.value x.value
    · have := wellFormed.lower_le_midpoint isY less
      have := (abs_sub_le_abs_sub_iff less).mp tie.ge
      exact .inl (by linarith)
    · exact absurd (eq_of_value_eq isY wellFormed same) different
    · have := wellFormed.midpoint_le_upper isY greater
      have := (abs_sub_le_abs_sub_iff' greater).mp tie.ge
      exact .inr (by linarith)

theorem IsNearest.le_upper {x : Binary64} {q : ℚ} (isNearest : x.IsNearest q) : q ≤ x.upper :=
  (abs_sub_le_abs_sub_iff x.value_lt_next).mp (isNearest.nearest _ isNearest.wellFormed.next)

theorem IsNearest.covers {x : Binary64} {q : ℚ} (isNearest : x.IsNearest q) (nonneg : 0 ≤ q) :
    x.Covers q := by
  have tie {y : Binary64} (isY : y.WellFormed) (different : y.value ≠ x.value)
      (midpoint : q = (x.value + y.value) / 2) : Even x.mantissa := by
    refine isNearest.even y isY (fun same => different (same ▸ rfl)) ?_
    have : q - x.value = -(q - y.value) := by linarith
    rw [this, abs_neg]
  have isNext := isNearest.wellFormed.next
  by_cases isZero : x.mantissa = 0
  · exact ⟨by rwa [lower, if_pos isZero], isNearest.le_upper, fun _ => by simp [isZero]⟩
  · have positive := Nat.pos_of_ne_zero isZero
    have isPrevious := isNearest.wellFormed.previous positive
    have below := x.previous.value_lt_next
    rw [isNearest.wellFormed.next_previous positive] at below
    have lower : x.lower = (x.previous.value + x.value) / 2 := if_neg isZero
    refine ⟨?_, isNearest.le_upper, ?_⟩
    · exact lower ▸ (abs_sub_le_abs_sub_iff' below).mp (isNearest.nearest _ isPrevious)
    · rintro (isLower | isUpper)
      · exact tie isPrevious below.ne (by linarith)
      · exact tie isNext x.value_lt_next.ne' isUpper

theorem isNearest_iff_covers {x : Binary64} {q : ℚ} (wellFormed : x.WellFormed) (nonneg : 0 ≤ q) :
    x.IsNearest q ↔ x.Covers q :=
  ⟨fun isNearest => isNearest.covers nonneg, Covers.isNearest wellFormed⟩

theorem WellFormed.isNearest_value {x : Binary64} (wellFormed : x.WellFormed) :
    x.IsNearest x.value where
  wellFormed := wellFormed
  nearest y _ := by
    rw [sub_self, abs_zero]
    exact abs_nonneg _
  even y isY different tie := by
    rw [sub_self, abs_zero, eq_comm, abs_eq_zero, sub_eq_zero] at tie
    exact absurd (eq_of_value_eq isY wellFormed tie.symm) different

/-- Two neighbours do not both have an even mantissa. -/
theorem even_mantissa_next (x : Binary64) (even : Even x.mantissa) : ¬ Even x.next.mantissa := by
  rw [Nat.even_iff] at even
  unfold next
  split
  · omega
  · rw [Nat.even_iff]
    simp only
    omega

theorem IsNearest.not_value_lt {x y : Binary64} {q : ℚ} (isX : x.IsNearest q) (isY : y.IsNearest q) :
    ¬ x.value < y.value := by
  intro less
  have tie : |q - x.value| = |q - y.value| :=
    le_antisymm (isX.nearest y isY.wellFormed) (isY.nearest x isX.wellFormed)
  have different : x ≠ y := fun same => less.ne (same ▸ rfl)
  have := (abs_sub_le_abs_sub_iff' less).mp tie.ge
  have isNext : x.next.value = y.value := by
    refine le_antisymm (next_le isX.wellFormed isY.wellFormed less) ?_
    have bound := isX.le_upper
    rw [upper] at bound
    linarith
  obtain rfl := eq_of_value_eq isX.wellFormed.next isY.wellFormed isNext
  exact x.even_mantissa_next (isX.even _ isY.wellFormed different.symm tie)
    (isY.even x isX.wellFormed different tie.symm)

theorem IsNearest.unique {x y : Binary64} {q : ℚ} (isX : x.IsNearest q) (isY : y.IsNearest q) :
    x = y :=
  eq_of_value_eq isX.wellFormed isY.wellFormed
    (le_antisymm (not_lt.mp (isY.not_value_lt isX)) (not_lt.mp (isX.not_value_lt isY)))

theorem RoundsTo.unique {q : ℚ} {x y : Binary64} (isX : RoundsTo q x) (isY : RoundsTo q y) :
    x = y :=
  isX.1.unique isY.1

/-- Zero is as far from a number as the number is great. -/
theorem IsNearest.value_le {x : Binary64} {q : ℚ} (isNearest : x.IsNearest q) (nonneg : 0 ≤ q) :
    x.value ≤ 2 * q := by
  have nearer := isNearest.nearest zero wellFormed_zero
  rw [value_zero, sub_zero, abs_of_nonneg nonneg] at nearer
  linarith [neg_abs_le (q - x.value)]

/-- Only zero is rounded to zero, among the natural numbers. -/
theorem RoundsTo.eq_zero {n : ℕ} {x : Binary64} (rounds : RoundsTo n x)
    (isZero : x.mantissa = 0) : n = 0 := by
  have bound := rounds.1.le_upper
  have least := rounds.1.wellFormed.normal.resolve_left (by simp [isZero])
  have tiny : (2 : ℚ) ^ (-1074 : ℤ) ≤ 2 ^ (0 : ℤ) := zpow_le_zpow_right₀ one_le_two (by norm_num)
  rw [upper_eq, isZero, least] at bound
  rw [zpow_zero] at tiny
  generalize (2 : ℚ) ^ (-1074 : ℤ) = unit at *
  have : (n : ℚ) < 1 := by
    push_cast at bound
    linarith
  exact Nat.lt_one_iff.mp (by exact_mod_cast this)

/-! ## Rounding a quotient -/

theorem scaled_ratio (num den : ℕ) (exponent : ℤ) :
    ((scaled num den exponent).1 : ℚ) / (scaled num den exponent).2 =
      num / den / 2 ^ exponent := by
  cases exponent with
  | ofNat k =>
    simp [scaled, div_div]
  | negSucc k =>
    simp [scaled, zpow_negSucc]
    ring

theorem scaled_den_pos (num : ℕ) {den : ℕ} (positive : 0 < den) (exponent : ℤ) :
    0 < (scaled num den exponent).2 := by
  cases exponent with
  | ofNat k => exact Nat.mul_pos positive (Nat.two_pow_pos k)
  | negSucc k => exact positive

/-- Rounding a quotient to an integer moves it by half at most, and by half only to an even one. -/
theorem roundQuotient_spec (num : ℕ) {den : ℕ} (positive : 0 < den) :
    (roundQuotient num den : ℚ) - 1 / 2 ≤ num / den ∧
      (num : ℚ) / den ≤ roundQuotient num den + 1 / 2 ∧
      ((num : ℚ) / den = roundQuotient num den - 1 / 2 ∨
        (num : ℚ) / den = roundQuotient num den + 1 / 2 → Even (roundQuotient num den)) := by
  have less := Nat.mod_lt num positive
  have split := Nat.div_add_mod num den
  simp only [roundQuotient]
  generalize num / den = quotient at *
  generalize num % den = rest at *
  have denPositive : (0 : ℚ) < den := by exact_mod_cast positive
  obtain ⟨part, isPart⟩ : ∃ part : ℚ, part = rest / den := ⟨_, rfl⟩
  have ratio : (num : ℚ) / den = quotient + part := by
    rw [isPart, ← split]
    push_cast
    field_simp
  have nonneg : 0 ≤ part := by
    rw [isPart]
    positivity
  have less : part < 1 := by
    rw [isPart, div_lt_one denPositive]
    exact_mod_cast less
  rw [ratio]
  obtain below | tie | above := lt_trichotomy (2 * rest) den
  · have below' : part < 1 / 2 := by
      rw [isPart, div_lt_div_iff₀ denPositive two_pos]
      exact_mod_cast (by omega : rest * 2 < 1 * den)
    rw [if_pos below]
    exact ⟨by linarith, by linarith, by rintro (same | same) <;> linarith⟩
  · have middle : part = 1 / 2 := by
      rw [isPart, div_eq_div_iff denPositive.ne' two_ne_zero]
      exact_mod_cast (by omega : rest * 2 = 1 * den)
    rw [if_neg tie.not_lt, if_neg tie.not_gt, middle]
    split
    · rename_i even
      exact ⟨by linarith, le_rfl, fun _ => Nat.even_iff.mpr even⟩
    · rename_i odd
      push_cast
      exact ⟨by linarith, by linarith, fun _ => Nat.even_iff.mpr (by omega)⟩
  · have above' : 1 / 2 < part := by
      rw [isPart, div_lt_div_iff₀ two_pos denPositive]
      exact_mod_cast (by omega : 1 * den < rest * 2)
    rw [if_neg above.not_gt, if_pos above]
    push_cast
    exact ⟨by linarith, by linarith, by rintro (same | same) <;> linarith⟩

theorem log2_bounds {n : ℕ} (positive : 0 < n) :
    (2 : ℚ) ^ (n.log2 : ℤ) ≤ n ∧ (n : ℚ) < 2 ^ (n.log2 + 1 : ℤ) := by
  constructor
  · exact_mod_cast Nat.log2_self_le positive.ne'
  · exact_mod_cast (Nat.lt_log2_self : n < 2 ^ (n.log2 + 1))

theorem ratio_bounds {num den : ℕ} (numPositive : 0 < num) (denPositive : 0 < den) :
    (2 : ℚ) ^ (num.log2 - den.log2 - 1 : ℤ) < num / den ∧
      (num : ℚ) / den < 2 ^ (num.log2 - den.log2 + 1 : ℤ) := by
  obtain ⟨numLow, numHigh⟩ := log2_bounds numPositive
  obtain ⟨denLow, denHigh⟩ := log2_bounds denPositive
  have denQ : (0 : ℚ) < den := by exact_mod_cast denPositive
  constructor
  · rw [lt_div_iff₀ denQ]
    calc
      (2 : ℚ) ^ (num.log2 - den.log2 - 1 : ℤ) * den
        < 2 ^ (num.log2 - den.log2 - 1 : ℤ) * 2 ^ (den.log2 + 1 : ℤ) := by gcongr
      _ = 2 ^ (num.log2 : ℤ) := by rw [← zpow_add₀ two_ne_zero]; congr 1; ring
      _ ≤ num := numLow
  · rw [div_lt_iff₀ denQ]
    calc
      (num : ℚ) < 2 ^ (num.log2 + 1 : ℤ) := numHigh
      _ = 2 ^ (num.log2 - den.log2 + 1 : ℤ) * 2 ^ (den.log2 : ℤ) := by
        rw [← zpow_add₀ two_ne_zero]; congr 1; ring
      _ ≤ 2 ^ (num.log2 - den.log2 + 1 : ℤ) * den := by gcongr

theorem scaled_div_lt_iff {num den : ℕ} (positive : 0 < den) (exponent : ℤ) :
    (scaled num den exponent).1 / (scaled num den exponent).2 < Nat.pow 2 53 ↔
      (num : ℚ) / den / 2 ^ exponent < 2 ^ 53 := by
  have scaledPositive := scaled_den_pos num positive exponent
  have scaledQ : (0 : ℚ) < (scaled num den exponent).2 := by exact_mod_cast scaledPositive
  rw [← scaled_ratio, div_lt_iff₀ scaledQ, Nat.div_lt_iff_lt_mul scaledPositive]
  exact_mod_cast Iff.rfl

/-- The exponent of a quotient leaves 53 bits before the point, unless it is the least one. -/
theorem exponentFor_spec {num den : ℕ} (numPositive : 0 < num) (denPositive : 0 < den) :
    -1074 ≤ exponentFor num den ∧
      (num : ℚ) / den / 2 ^ exponentFor num den < 2 ^ 53 ∧
      (2 ^ 52 ≤ (num : ℚ) / den / 2 ^ exponentFor num den ∨ exponentFor num den = -1074) := by
  obtain ⟨below, above⟩ := ratio_bounds numPositive denPositive
  simp only [exponentFor, scaled_div_lt_iff denPositive, leastExponent]
  generalize (num : ℚ) / den = q at *
  obtain ⟨low, isLow⟩ : ∃ low : ℤ, low = num.log2 - den.log2 - 53 := ⟨_, rfl⟩
  have isLow' : Int.ofNat num.log2 - Int.ofNat den.log2 - 53 = low := isLow.symm
  have fits {exponent : ℤ} : q / 2 ^ exponent < 2 ^ 53 ↔ q < 2 ^ (exponent + 53) := by
    rw [div_lt_iff₀ (by positivity), mul_comm, zpow_add₀ two_ne_zero]
    norm_cast
  have full {exponent : ℤ} : 2 ^ 52 ≤ q / 2 ^ exponent ↔ 2 ^ (exponent + 52) ≤ q := by
    rw [le_div_iff₀ (by positivity), mul_comm, zpow_add₀ two_ne_zero]
    norm_cast
  rw [isLow']
  rw [show (num.log2 - den.log2 - 1 : ℤ) = low + 52 by omega] at below
  rw [show (num.log2 - den.log2 + 1 : ℤ) = low + 54 by omega] at above
  generalize isExact : (if q / 2 ^ low < 2 ^ 53 then low else low + 1) = exact
  have exactBounds : q < 2 ^ (exact + 53) ∧ 2 ^ (exact + 52) ≤ q := by
    rw [← isExact]
    split
    · rename_i small
      exact ⟨fits.mp small, below.le⟩
    · rename_i large
      rw [add_assoc, add_assoc]
      exact ⟨above, not_lt.mp (mt fits.mpr large)⟩
  rw [fits, full]
  obtain ordinary | least := le_total (-1074) exact
  · rw [max_eq_left ordinary]
    exact ⟨ordinary, exactBounds.1, .inl exactBounds.2⟩
  · rw [max_eq_right least]
    refine ⟨le_rfl, exactBounds.1.trans_le ?_, .inr rfl⟩
    exact zpow_le_zpow_right₀ one_le_two (by omega)

/-- A mantissa that is rounded up to one bit more gives a power of two. -/
theorem isNearest_carried {exponent : ℤ} {part : ℚ} (least : -1074 ≤ exponent)
    (small : part < 2 ^ 53) (low : 2 ^ 53 - 1 / 2 ≤ part) :
    IsNearest ⟨2 ^ 52, exponent + 1⟩ (part * 2 ^ exponent) := by
  have scale : (0 : ℚ) < 2 ^ exponent := by positivity
  have normal : -1074 < exponent + 1 := by omega
  refine Covers.isNearest ⟨by norm_num, normal.le, .inl le_rfl⟩
    ⟨?_, ?_, fun _ => by simp only; decide⟩
  · rw [lower_eq, if_neg (by norm_num), if_pos ⟨rfl, normal⟩, zpow_add_one₀ two_ne_zero]
    push_cast
    nlinarith
  · rw [upper_eq, zpow_add_one₀ two_ne_zero]
    push_cast
    nlinarith

theorem isNearest_of_mantissa {mantissa : ℕ} {exponent : ℤ} {part : ℚ} (least : -1074 ≤ exponent)
    (full : 2 ^ 52 ≤ part ∨ exponent = -1074) (short : mantissa < 2 ^ 53) (nonneg : 0 ≤ part)
    (low : (mantissa : ℚ) - 1 / 2 ≤ part) (high : part ≤ mantissa + 1 / 2)
    (even : part = mantissa - 1 / 2 ∨ part = mantissa + 1 / 2 → Even mantissa) :
    IsNearest ⟨mantissa, exponent⟩ (part * 2 ^ exponent) := by
  have scale : (0 : ℚ) < 2 ^ exponent := by positivity
  have wellFormed : WellFormed ⟨mantissa, exponent⟩ := by
    refine ⟨short, least, full.imp_left fun large => ?_⟩
    have : (2 : ℚ) ^ 52 < mantissa + 1 := by linarith
    exact Nat.lt_succ_iff.mp (by exact_mod_cast this)
  refine Covers.isNearest wellFormed ⟨?_, ?_, ?_⟩
  · rw [lower_eq]
    split
    · positivity
    · split
      · rename_i power
        have mantissa : (mantissa : ℚ) = 2 ^ 52 := by exact_mod_cast power.1
        have large := full.resolve_right power.2.ne'
        simp only [mantissa]
        nlinarith
      · gcongr
  · rw [upper_eq]
    simp only
    gcongr
  · rw [lower_eq, upper_eq]
    rintro (isLower | isUpper)
    · split at isLower
      · rename_i isZero
        exact isZero ▸ Even.zero
      · split at isLower
        · rename_i power
          rw [power.1]
          decide
        · exact even (.inl (mul_right_cancel₀ scale.ne' isLower))
    · exact even (.inr (mul_right_cancel₀ scale.ne' isUpper))

theorem exists_ofRatio? (num : ℕ) {den : ℕ} (positive : 0 < den) :
    ∃ x : Binary64, x.IsNearest (num / den) ∧
      ofRatio? num den = if 971 < x.exponent then none else some x := by
  unfold ofRatio?
  split
  · rename_i isZero
    refine ⟨zero, ?_, rfl⟩
    have itself := wellFormed_zero.isNearest_value
    simpa [isZero] using itself
  · rename_i notZero
    obtain ⟨least, small, full⟩ := exponentFor_spec (Nat.pos_of_ne_zero notZero) positive
    have scaledPositive := scaled_den_pos num positive (exponentFor num den)
    have rounds := roundQuotient_spec (scaled num den (exponentFor num den)).1 scaledPositive
    rw [scaled_ratio] at rounds
    simp only
    generalize roundQuotient _ _ = mantissa at *
    generalize exponentFor num den = exponent at *
    have nonneg : (0 : ℚ) ≤ num / den / 2 ^ exponent := by positivity
    have scale : (num : ℚ) / den = num / den / 2 ^ exponent * 2 ^ exponent := by
      rw [div_mul_cancel₀ _ (by positivity)]
    obtain ⟨low, high, even⟩ := rounds
    refine ⟨_, ?_, rfl⟩
    rw [scale]
    split
    · rename_i isLong
      have mantissa : (mantissa : ℚ) = 2 ^ 53 := by exact_mod_cast isLong
      exact isNearest_carried least small (mantissa ▸ low)
    · rename_i notLong
      have : (mantissa : ℚ) < 2 ^ 53 + 1 := by linarith
      have : mantissa < 2 ^ 53 + 1 := by exact_mod_cast this
      have short : mantissa < 2 ^ 53 := lt_of_le_of_ne (Nat.lt_succ_iff.mp this) notLong
      exact isNearest_of_mantissa least full short nonneg low high even

theorem ofRatio?_eq_some_iff {num den : ℕ} (positive : 0 < den) {x : Binary64} :
    ofRatio? num den = some x ↔ RoundsTo (num / den) x := by
  obtain ⟨y, isY, isRounded⟩ := exists_ofRatio? num positive
  rw [isRounded]
  constructor
  · intro same
    split at same
    · cases same
    · rename_i finite
      cases same
      exact ⟨isY, not_lt.mp finite⟩
  · rintro ⟨isX, finite⟩
    rw [isY.unique isX, if_neg (not_lt.mpr finite)]

theorem ofNat?_eq_some_iff {n : ℕ} {x : Binary64} : ofNat? n = some x ↔ RoundsTo n x := by
  have isRatio : ofRatio? n 1 = some x ↔ RoundsTo (n / (1 : ℕ)) x := ofRatio?_eq_some_iff one_pos
  rwa [Nat.cast_one, div_one] at isRatio

theorem times?_eq_some_iff {x y product : Binary64} :
    x.times? y = some product ↔ RoundsTo (x.value * y.value) product := by
  have ratio := scaled_ratio (x.mantissa * y.mantissa) 1 (-(x.exponent + y.exponent))
  have isProduct : x.value * y.value =
      (x.mantissa * y.mantissa : ℕ) / (1 : ℕ) / 2 ^ (-(x.exponent + y.exponent)) := by
    rw [value, value, zpow_neg, zpow_add₀ two_ne_zero]
    push_cast
    field_simp
  rw [isProduct, ← ratio]
  exact ofRatio?_eq_some_iff (scaled_den_pos _ one_pos _)

theorem over?_eq_some_iff {x y quotient : Binary64} (positive : 0 < y.mantissa) :
    x.over? y = some quotient ↔ RoundsTo (x.value / y.value) quotient := by
  have ratio := scaled_ratio x.mantissa y.mantissa (y.exponent - x.exponent)
  have isQuotient : x.value / y.value =
      x.mantissa / y.mantissa / 2 ^ (y.exponent - x.exponent) := by
    have denominator : (y.mantissa : ℚ) ≠ 0 := by exact_mod_cast positive.ne'
    rw [value, value, zpow_sub₀ two_ne_zero]
    field_simp
  rw [isQuotient, ← ratio]
  exact ofRatio?_eq_some_iff (scaled_den_pos _ positive _)

/-- A number far below the greatest finite double has a finite one. -/
theorem exists_roundsTo {n : ℕ} (small : n < 2 ^ 64) : ∃ x, RoundsTo n x := by
  obtain ⟨x, isX, _⟩ := exists_ofRatio? n one_pos
  rw [Nat.cast_one, div_one] at isX
  refine ⟨x, isX, ?_⟩
  by_contra infinite
  have small : (n : ℚ) < 2 ^ 64 := by exact_mod_cast small
  have normal : (2 : ℚ) ^ 52 ≤ x.mantissa := by
    have := isX.wellFormed.normal
    exact_mod_cast (by omega : 2 ^ 52 ≤ x.mantissa)
  have scale : (2 : ℚ) ^ (64 : ℤ) ≤ 2 ^ x.exponent := zpow_le_zpow_right₀ one_le_two (by omega)
  have great : (2 : ℚ) ^ 52 * 2 ^ (64 : ℤ) ≤ x.value := by
    unfold value
    gcongr
  rw [zpow_ofNat] at great
  linarith [isX.value_le n.cast_nonneg]

end SearchQuery.Binary64
