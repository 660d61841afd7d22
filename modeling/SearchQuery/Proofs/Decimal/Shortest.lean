import SearchQuery.Decimal.Shortest
import SearchQuery.Proofs.Decimal.Nearest

/-!
# The shortest decimal

`IsShortest` says which decimal is the shortest one of a double: it rounds to the double, none with
fewer digits does, and of those with as many digits none is nearer. The search finds it
(`isShortest_shortest`). It goes to the first decimal grid with a point between the bounds of the
double. Since the bounds are convex, a shorter decimal would put a power of ten between them, which
lies on a coarser grid; and the grid where the search starts is too coarse, the one where it ends
fine enough.
-/

set_option autoImplicit false

namespace SearchQuery

namespace Decimal

def value (d : Decimal) : ℚ :=
  d.digits * 10 ^ d.exponent

/-- The number of digits. -/
def length (d : Decimal) : ℕ :=
  (Nat.toDigits 10 d.digits).length

/-- The shortest decimal of a double: of several that are equally short the nearest, and of two that
are equally near the one whose last digit is even. -/
structure IsShortest (d : Decimal) (x : Binary64) : Prop where
  rounds : x.IsNearest d.value
  fewest : ∀ other : Decimal, x.IsNearest other.value → d.length ≤ other.length
  nearest : ∀ other : Decimal, x.IsNearest other.value → other.length = d.length →
    |d.value - x.value| ≤ |other.value - x.value|
  even : ∀ other : Decimal, x.IsNearest other.value → other.length = d.length →
    other.value ≠ d.value → |d.value - x.value| = |other.value - x.value| → Even d.digits

theorem value_nonneg (d : Decimal) : 0 ≤ d.value := by
  unfold value
  positivity

theorem value_one (exponent : ℤ) : value ⟨1, exponent⟩ = 10 ^ exponent := by
  simp [value]

theorem length_pos (d : Decimal) : 0 < d.length :=
  Nat.length_toDigits_pos

theorem value_lt (d : Decimal) : d.value < 10 ^ (d.length + d.exponent) := by
  have short : d.digits < 10 ^ d.length :=
    (Nat.length_toDigits_le_iff (by norm_num) d.length_pos).mp le_rfl
  have short : (d.digits : ℚ) < 10 ^ d.length := by exact_mod_cast short
  rw [value, zpow_add₀ (by norm_num), zpow_natCast]
  gcongr

theorem power_le_digits {d : Decimal} (positive : 0 < d.digits) :
    10 ^ (d.length - 1) ≤ d.digits := by
  obtain one | more := Nat.eq_zero_or_pos (d.length - 1)
  · rwa [one]
  · by_contra short
    have := (Nat.length_toDigits_le_iff (by norm_num) more).mpr (not_le.mp short)
    unfold length at *
    omega

theorem le_value {d : Decimal} (positive : 0 < d.digits) :
    (10 : ℚ) ^ (d.length - 1 + d.exponent) ≤ d.value := by
  have long : (10 : ℚ) ^ (d.length - 1) ≤ d.digits := by exact_mod_cast power_le_digits positive
  have := d.length_pos
  rw [value, show (d.length - 1 + d.exponent : ℤ) = (d.length - 1 : ℕ) + d.exponent by omega,
    zpow_add₀ (by norm_num), zpow_natCast]
  gcongr

/-- The point of a grid, as a decimal on any finer one. -/
theorem value_finer (digits : ℕ) {exponent finer : ℤ} (less : finer ≤ exponent) :
    (⟨digits, exponent⟩ : Decimal).value =
      (⟨digits * 10 ^ (exponent - finer).toNat, finer⟩ : Decimal).value := by
  have difference : exponent = (exponent - finer).toNat + finer := by omega
  rw [value, value]
  simp only
  conv_lhs => rw [difference, zpow_add₀ (by norm_num), zpow_natCast]
  push_cast
  ring

end Decimal

namespace Binary64

/-! ## Points of a grid -/

theorem quarterOver_ratio (x : Binary64) (tenExponent : ℤ) :
    0 < (x.quarterOver tenExponent).2 ∧
      ((x.quarterOver tenExponent).1 : ℚ) / (x.quarterOver tenExponent).2 =
        2 ^ x.exponent / 4 / 10 ^ tenExponent := by
  have ratio := scaled_ratio 1 1 (2 - x.exponent)
  have positive := scaled_den_pos 1 one_pos (2 - x.exponent)
  have quarter : (2 : ℚ) ^ x.exponent / 4 =
      (scaled 1 1 (2 - x.exponent)).1 / (scaled 1 1 (2 - x.exponent)).2 := by
    rw [ratio, zpow_sub₀ two_ne_zero]
    push_cast
    field_simp
  rw [quarter]
  unfold quarterOver
  cases tenExponent with
  | ofNat k =>
    refine ⟨Nat.mul_pos positive (Nat.pow_pos (by norm_num)), ?_⟩
    simp [div_div]
  | negSucc k =>
    refine ⟨positive, ?_⟩
    simp [zpow_negSucc]
    ring

theorem lowQuarters_eq {x : Binary64} (positive : 0 < x.mantissa) :
    (x.lowQuarters : ℚ) * (2 ^ x.exponent / 4) = x.lower := by
  rw [lower_eq, if_neg positive.ne']
  by_cases power : x.mantissa = 2 ^ 52 ∧ -1074 < x.exponent
  · have quarters : x.lowQuarters = 4 * x.mantissa - 1 := if_pos power
    rw [if_pos power, quarters, Nat.cast_sub (by omega)]
    push_cast
    ring
  · have quarters : x.lowQuarters = 4 * x.mantissa - 2 := if_neg power
    rw [if_neg power, quarters, Nat.cast_sub (by omega)]
    push_cast
    ring

theorem highQuarters_eq (x : Binary64) :
    (x.highQuarters : ℚ) * (2 ^ x.exponent / 4) = x.upper := by
  rw [upper_eq, highQuarters]
  push_cast
  ring

theorem covers_iff {x : Binary64} {q : ℚ} :
    x.Covers q ↔ if x.mantissa % 2 = 0 then x.lower ≤ q ∧ q ≤ x.upper
      else x.lower < q ∧ q < x.upper := by
  constructor
  · rintro ⟨low, high, even⟩
    rw [Nat.even_iff] at even
    split
    · exact ⟨low, high⟩
    · rename_i odd
      exact ⟨low.lt_of_ne' fun same => odd (even (.inl same)),
        high.lt_of_ne fun same => odd (even (.inr same))⟩
  · intro bounds
    split at bounds
    · rename_i even
      exact ⟨bounds.1, bounds.2, fun _ => Nat.even_iff.mpr even⟩
    · exact ⟨bounds.1.le, bounds.2.le, by rintro (same | same) <;> linarith⟩

theorem roundsFrom_iff {x : Binary64} (positive : 0 < x.mantissa) (tenExponent : ℤ) (point : ℕ) :
    x.roundsFrom tenExponent point = true ↔
      x.Covers (⟨point, tenExponent⟩ : Decimal).value := by
  obtain ⟨denPositive, ratio⟩ := x.quarterOver_ratio tenExponent
  rw [covers_iff, ← lowQuarters_eq positive, ← highQuarters_eq, roundsFrom, Decimal.value]
  generalize x.quarterOver tenExponent = quarter at *
  obtain ⟨num, den⟩ := quarter
  have denQ : (0 : ℚ) < den := by exact_mod_cast denPositive
  have scale : (0 : ℚ) < 10 ^ tenExponent := by positivity
  simp only at ratio ⊢
  rw [eq_div_iff scale.ne'] at ratio
  rw [← ratio]
  have le (quarters : ℕ) :
      (quarters : ℚ) * (num / den * 10 ^ tenExponent) ≤ point * 10 ^ tenExponent ↔
        quarters * num ≤ point * den := by
    rw [← mul_assoc, mul_le_mul_iff_left₀ scale, ← mul_div_assoc, div_le_iff₀ denQ]
    exact_mod_cast Iff.rfl
  have ge (quarters : ℕ) :
      (point : ℚ) * 10 ^ tenExponent ≤ quarters * (num / den * 10 ^ tenExponent) ↔
        point * den ≤ quarters * num := by
    rw [← mul_assoc, mul_le_mul_iff_left₀ scale, ← mul_div_assoc, le_div_iff₀ denQ]
    exact_mod_cast Iff.rfl
  simp only [← not_le, le, ge]
  split <;> simp

/-- A double in the numerator that a grid point is compared with. -/
def gridNumerator (x : Binary64) (tenExponent : ℤ) : ℕ :=
  4 * x.mantissa * (x.quarterOver tenExponent).1

def gridDenominator (x : Binary64) (tenExponent : ℤ) : ℕ :=
  (x.quarterOver tenExponent).2

/-- The greatest point of a grid that is not above a double. -/
def pointBelow (x : Binary64) (tenExponent : ℤ) : ℕ :=
  x.gridNumerator tenExponent / x.gridDenominator tenExponent

/-- How far the point below is from a double, in units of the grid's own. -/
def toBelow (x : Binary64) (tenExponent : ℤ) : ℕ :=
  x.gridNumerator tenExponent - x.pointBelow tenExponent * x.gridDenominator tenExponent

def toAbove (x : Binary64) (tenExponent : ℤ) : ℕ :=
  (x.pointBelow tenExponent + 1) * x.gridDenominator tenExponent - x.gridNumerator tenExponent

theorem pointOn?_eq (x : Binary64) (tenExponent : ℤ) :
    x.pointOn? tenExponent =
      match x.roundsFrom tenExponent (x.pointBelow tenExponent),
        x.roundsFrom tenExponent (x.pointBelow tenExponent + 1) with
      | true, false => some (x.pointBelow tenExponent)
      | false, true => some (x.pointBelow tenExponent + 1)
      | false, false => none
      | true, true =>
        if x.toBelow tenExponent < x.toAbove tenExponent then some (x.pointBelow tenExponent)
        else if x.toAbove tenExponent < x.toBelow tenExponent then
          some (x.pointBelow tenExponent + 1)
        else if x.pointBelow tenExponent % 2 = 0 then some (x.pointBelow tenExponent)
        else some (x.pointBelow tenExponent + 1) :=
  rfl

/-- The point of a grid that is nearest to a double among those between its bounds. -/
structure IsBestPoint (x : Binary64) (tenExponent : ℤ) (point : ℕ) : Prop where
  covers : x.Covers (Decimal.value ⟨point, tenExponent⟩)
  nearest : ∀ other : ℕ, x.Covers (Decimal.value ⟨other, tenExponent⟩) →
    |Decimal.value ⟨point, tenExponent⟩ - x.value| ≤ |Decimal.value ⟨other, tenExponent⟩ - x.value|
  even : ∀ other : ℕ, x.Covers (Decimal.value ⟨other, tenExponent⟩) → other ≠ point →
    |Decimal.value ⟨point, tenExponent⟩ - x.value| =
      |Decimal.value ⟨other, tenExponent⟩ - x.value| → Even point

section Grid

variable {x : Binary64} {tenExponent : ℤ}

theorem value_lt_value (tenExponent : ℤ) {point other : ℕ} (less : point < other) :
    Decimal.value ⟨point, tenExponent⟩ < Decimal.value ⟨other, tenExponent⟩ := by
  unfold Decimal.value
  simp only
  gcongr

theorem value_le_value (tenExponent : ℤ) {point other : ℕ} (le : point ≤ other) :
    Decimal.value ⟨point, tenExponent⟩ ≤ Decimal.value ⟨other, tenExponent⟩ := by
  obtain rfl | less := le.eq_or_lt
  · exact le_rfl
  · exact (value_lt_value _ less).le

theorem lt_pointAbove_mul (x : Binary64) (tenExponent : ℤ) :
    x.gridNumerator tenExponent <
      (x.pointBelow tenExponent + 1) * x.gridDenominator tenExponent := by
  rw [Nat.add_one_mul]
  exact Nat.lt_div_mul_add (x.quarterOver_ratio tenExponent).1

/-- How far a double is from the two points of a grid next to it, in parts of the grid. -/
theorem exists_distances (x : Binary64) (tenExponent : ℤ) :
    ∃ unit : ℚ, 0 < unit ∧
      x.value - Decimal.value ⟨x.pointBelow tenExponent, tenExponent⟩ =
        x.toBelow tenExponent * unit ∧
      Decimal.value ⟨x.pointBelow tenExponent + 1, tenExponent⟩ - x.value =
        x.toAbove tenExponent * unit := by
  obtain ⟨positive, ratio⟩ := x.quarterOver_ratio tenExponent
  have denQ : (0 : ℚ) < (x.quarterOver tenExponent).2 := by exact_mod_cast positive
  have scale : (0 : ℚ) < 10 ^ tenExponent := by positivity
  have isValue : x.value =
      x.gridNumerator tenExponent * (10 ^ tenExponent / x.gridDenominator tenExponent) := by
    have quarter : (2 : ℚ) ^ x.exponent = 4 * ((x.quarterOver tenExponent).1 /
        (x.quarterOver tenExponent).2 * 10 ^ tenExponent) := by
      rw [ratio, div_mul_cancel₀ _ scale.ne']
      ring
    rw [value, quarter, gridNumerator, gridDenominator]
    push_cast
    ring
  have onGrid (point : ℕ) : Decimal.value ⟨point, tenExponent⟩ =
      (point * x.gridDenominator tenExponent : ℕ) *
        (10 ^ tenExponent / x.gridDenominator tenExponent) := by
    rw [Decimal.value, gridDenominator]
    push_cast
    field_simp
  have below : x.pointBelow tenExponent * x.gridDenominator tenExponent ≤
      x.gridNumerator tenExponent := Nat.div_mul_le_self _ _
  have above := (x.lt_pointAbove_mul tenExponent).le
  refine ⟨10 ^ tenExponent / x.gridDenominator tenExponent, div_pos scale denQ, ?_, ?_⟩
  · rw [isValue, onGrid, toBelow, Nat.cast_sub below]
    ring
  · rw [isValue, onGrid, toAbove, Nat.cast_sub above]
    ring

theorem pointBelow_le (x : Binary64) (tenExponent : ℤ) :
    Decimal.value ⟨x.pointBelow tenExponent, tenExponent⟩ ≤ x.value := by
  obtain ⟨unit, positive, below, _⟩ := x.exists_distances tenExponent
  rw [← sub_nonneg, below]
  positivity

theorem lt_pointAbove (x : Binary64) (tenExponent : ℤ) :
    x.value < Decimal.value ⟨x.pointBelow tenExponent + 1, tenExponent⟩ := by
  obtain ⟨unit, positive, _, above⟩ := x.exists_distances tenExponent
  have distance : 0 < x.toAbove tenExponent := Nat.sub_pos_of_lt (x.lt_pointAbove_mul tenExponent)
  rw [← sub_pos, above]
  positivity

theorem exists_unit (x : Binary64) (tenExponent : ℤ) :
    ∃ unit : ℚ, 0 < unit ∧
      |Decimal.value ⟨x.pointBelow tenExponent, tenExponent⟩ - x.value| =
        x.toBelow tenExponent * unit ∧
      |Decimal.value ⟨x.pointBelow tenExponent + 1, tenExponent⟩ - x.value| =
        x.toAbove tenExponent * unit := by
  obtain ⟨unit, unitPositive, below, above⟩ := x.exists_distances tenExponent
  refine ⟨unit, unitPositive, ?_, ?_⟩
  · rw [abs_sub_comm, below, abs_of_nonneg (by positivity)]
  · rw [above, abs_of_nonneg (by positivity)]

section Nonzero

variable (wellFormed : x.WellFormed) (positive : 0 < x.mantissa)
include wellFormed positive

theorem covers_value : x.Covers x.value := by
  refine ⟨(wellFormed.lower_lt positive).le, x.lt_upper.le, ?_⟩
  rintro (isLower | isUpper)
  · exact absurd isLower (wellFormed.lower_lt positive).ne'
  · exact absurd isUpper x.lt_upper.ne

/-- One of the two points next to a double is no farther from it than any other point between its
bounds. -/
theorem exists_neighbour {point : ℕ} (covers : x.Covers (Decimal.value ⟨point, tenExponent⟩)) :
    ∃ nearer : ℕ, (nearer = x.pointBelow tenExponent ∨ nearer = x.pointBelow tenExponent + 1) ∧
      x.Covers (Decimal.value ⟨nearer, tenExponent⟩) ∧
      (point ≠ nearer → |Decimal.value ⟨nearer, tenExponent⟩ - x.value| <
        |Decimal.value ⟨point, tenExponent⟩ - x.value|) := by
  have itself := covers_value wellFormed positive
  have below := x.pointBelow_le tenExponent
  have above := (x.lt_pointAbove tenExponent).le
  obtain ge | le := Nat.lt_or_ge (x.pointBelow tenExponent) point
  · refine ⟨_, .inr rfl, itself.convex covers above (value_le_value _ ge), fun different => ?_⟩
    have less := value_lt_value tenExponent (lt_of_le_of_ne ge different.symm)
    rw [abs_of_nonneg (by linarith), abs_of_nonneg (by linarith)]
    linarith
  · refine ⟨_, .inl rfl, covers.convex itself (value_le_value _ le) below, fun different => ?_⟩
    have less := value_lt_value tenExponent (le.lt_of_ne different)
    rw [abs_of_nonpos (by linarith), abs_of_nonpos (by linarith)]
    linarith

theorem isBestPoint_of_neighbours {point : ℕ}
    (covers : x.Covers (Decimal.value ⟨point, tenExponent⟩))
    (best : ∀ other : ℕ, other = x.pointBelow tenExponent ∨ other = x.pointBelow tenExponent + 1 →
      other ≠ point → x.Covers (Decimal.value ⟨other, tenExponent⟩) →
      |Decimal.value ⟨point, tenExponent⟩ - x.value| <
          |Decimal.value ⟨other, tenExponent⟩ - x.value| ∨
        |Decimal.value ⟨point, tenExponent⟩ - x.value| =
          |Decimal.value ⟨other, tenExponent⟩ - x.value| ∧ Even point) :
    x.IsBestPoint tenExponent point := by
  have best' {other : ℕ} (different : other ≠ point)
      (isCovered : x.Covers (Decimal.value ⟨other, tenExponent⟩)) :
      |Decimal.value ⟨point, tenExponent⟩ - x.value| <
          |Decimal.value ⟨other, tenExponent⟩ - x.value| ∨
        |Decimal.value ⟨point, tenExponent⟩ - x.value| =
          |Decimal.value ⟨other, tenExponent⟩ - x.value| ∧ Even point := by
    obtain ⟨nearer, isNeighbour, nearerCovered, strict⟩ :=
      exists_neighbour wellFormed positive isCovered
    by_cases same : nearer = point
    · exact .inl (same ▸ strict (same ▸ different))
    · by_cases isOther : other = nearer
      · exact isOther ▸ best nearer isNeighbour same nearerCovered
      · have := strict isOther
        obtain less | ⟨tie, _⟩ := best nearer isNeighbour same nearerCovered
        · exact .inl (less.trans this)
        · exact .inl (tie.trans_lt this)
  refine ⟨covers, fun other isCovered => ?_, fun other isCovered different tie => ?_⟩
  · by_cases same : other = point
    · rw [same]
    · exact (best' same isCovered).elim (·.le) (·.1.le)
  · exact (best' different isCovered).elim (fun less => absurd tie less.ne) (·.2)

theorem isBestPoint_below
    (covers : x.Covers (Decimal.value ⟨x.pointBelow tenExponent, tenExponent⟩))
    (best : x.Covers (Decimal.value ⟨x.pointBelow tenExponent + 1, tenExponent⟩) →
      x.toBelow tenExponent < x.toAbove tenExponent ∨
        x.toBelow tenExponent = x.toAbove tenExponent ∧ Even (x.pointBelow tenExponent)) :
    x.IsBestPoint tenExponent (x.pointBelow tenExponent) := by
  obtain ⟨unit, unitPositive, below, above⟩ := x.exists_unit tenExponent
  refine isBestPoint_of_neighbours wellFormed positive covers ?_
  rintro other (rfl | rfl) different isCovered
  · exact absurd rfl different
  · rw [below, above]
    refine (best isCovered).imp (fun nearer => ?_) fun ⟨tie, even⟩ => ⟨by rw [tie], even⟩
    gcongr

theorem isBestPoint_above
    (covers : x.Covers (Decimal.value ⟨x.pointBelow tenExponent + 1, tenExponent⟩))
    (best : x.Covers (Decimal.value ⟨x.pointBelow tenExponent, tenExponent⟩) →
      x.toAbove tenExponent < x.toBelow tenExponent ∨
        x.toAbove tenExponent = x.toBelow tenExponent ∧ Even (x.pointBelow tenExponent + 1)) :
    x.IsBestPoint tenExponent (x.pointBelow tenExponent + 1) := by
  obtain ⟨unit, unitPositive, below, above⟩ := x.exists_unit tenExponent
  refine isBestPoint_of_neighbours wellFormed positive covers ?_
  rintro other (rfl | rfl) different isCovered
  · rw [below, above]
    refine (best isCovered).imp (fun nearer => ?_) fun ⟨tie, even⟩ => ⟨by rw [tie], even⟩
    gcongr
  · exact absurd rfl different

theorem isBestPoint_of_pointOn? {point : ℕ} (found : x.pointOn? tenExponent = some point) :
    x.IsBestPoint tenExponent point := by
  have covered := roundsFrom_iff positive tenExponent
  rw [pointOn?_eq] at found
  split at found
  · rename_i below above
    cases found
    refine isBestPoint_below wellFormed positive ((covered _).mp below) fun isCovered => ?_
    exact absurd ((covered _).mpr isCovered) (by simp [above])
  · rename_i below above
    cases found
    refine isBestPoint_above wellFormed positive ((covered _).mp above) fun isCovered => ?_
    exact absurd ((covered _).mpr isCovered) (by simp [below])
  · cases found
  · rename_i below above
    have ofBelow := isBestPoint_below wellFormed positive ((covered _).mp below)
    have ofAbove := isBestPoint_above wellFormed positive ((covered _).mp above)
    split at found
    · rename_i nearer
      cases found
      exact ofBelow fun _ => .inl nearer
    · split at found
      · rename_i nearer
        cases found
        exact ofAbove fun _ => .inl nearer
      · have tie : x.toBelow tenExponent = x.toAbove tenExponent := by omega
        split at found
        · rename_i even
          cases found
          exact ofBelow fun _ => .inr ⟨tie, Nat.even_iff.mpr even⟩
        · rename_i odd
          cases found
          exact ofAbove fun _ => .inr ⟨tie.symm, Nat.even_iff.mpr (by omega)⟩

theorem not_covers_of_pointOn?_eq_none (nothing : x.pointOn? tenExponent = none) (point : ℕ) :
    ¬ x.Covers (Decimal.value ⟨point, tenExponent⟩) := by
  intro covers
  obtain ⟨nearer, isNeighbour, isCovered, _⟩ := exists_neighbour wellFormed positive covers
  have fits := (roundsFrom_iff positive tenExponent nearer).mpr isCovered
  rw [pointOn?_eq] at nothing
  split at nothing
  · cases nothing
  · cases nothing
  · rename_i below above
    obtain rfl | rfl := isNeighbour
    · rw [fits] at below
      cases below
    · rw [fits] at above
      cases above
  · split at nothing
    · cases nothing
    · split at nothing
      · cases nothing
      · split at nothing <;> cases nothing

end Nonzero

theorem lower_le_sub_quarter (positive : 0 < x.mantissa) :
    x.lower ≤ x.value - 2 ^ x.exponent / 4 := by
  have scale : (0 : ℚ) < 2 ^ x.exponent := by positivity
  rw [lower_eq, if_neg positive.ne', value]
  split <;> linarith

/-- A grid that is finer than a quarter of the last place has a point between the bounds. -/
theorem covers_pointBelow_of_fine (positive : 0 < x.mantissa)
    (fine : (10 : ℚ) ^ tenExponent ≤ 2 ^ x.exponent / 4) :
    x.Covers (Decimal.value ⟨x.pointBelow tenExponent, tenExponent⟩) := by
  have below := x.pointBelow_le tenExponent
  have above := x.lt_pointAbove tenExponent
  have step : Decimal.value ⟨x.pointBelow tenExponent + 1, tenExponent⟩ =
      Decimal.value ⟨x.pointBelow tenExponent, tenExponent⟩ + 10 ^ tenExponent := by
    rw [Decimal.value, Decimal.value]
    push_cast
    ring
  have lower := lower_le_sub_quarter positive
  have upper := x.lt_upper
  refine ⟨by linarith, by linarith, ?_⟩
  rintro (isLower | isUpper) <;> linarith

end Grid

/-! ## The search -/

/-- The search ends at the first grid with a point. -/
theorem exists_searchGrids (x : Binary64) (steps : ℕ) {start : ℤ}
    (found : ∃ j < steps, x.pointOn? (start - j) ≠ none) :
    ∃ point tenExponent, x.searchGrids steps start = ⟨point, tenExponent⟩ ∧
      x.pointOn? tenExponent = some point ∧
      (tenExponent = start ∨ x.pointOn? (tenExponent + 1) = none) := by
  induction steps generalizing start with
  | zero =>
    obtain ⟨j, impossible, _⟩ := found
    exact absurd impossible (Nat.not_lt_zero j)
  | succ steps ih =>
    rw [searchGrids]
    cases isPoint : x.pointOn? start with
    | some point => exact ⟨point, start, rfl, isPoint, .inl rfl⟩
    | none =>
      have later : ∃ j < steps, x.pointOn? (start - 1 - j) ≠ none := by
        obtain ⟨j, less, isFound⟩ := found
        cases j with
        | zero => exact absurd (by simpa using isPoint) isFound
        | succ j =>
          refine ⟨j, Nat.lt_of_succ_lt_succ less, ?_⟩
          rwa [show start - 1 - (j : ℤ) = start - (j + 1 : ℕ) by push_cast; ring]
      obtain ⟨point, tenExponent, isResult, isFound, isFirst⟩ := ih later
      refine ⟨point, tenExponent, isResult, isFound, .inr ?_⟩
      obtain rfl | none := isFirst
      · rwa [sub_add_cancel]
      · exact none

/-- The decimal logarithm of powers of two, as far as doubles go. -/
theorem power_bounds_nat : ∀ n < 1100,
    10 ^ (n * 30103 / 100000) ≤ 2 ^ n ∧ 2 ^ n ≤ 10 ^ (n * 30103 / 100000 + 1) := by
  decide +kernel

theorem power_bounds {n : ℤ} (least : -1100 < n) (greatest : n < 1100) :
    (10 : ℚ) ^ (n * 30103 / 100000 - 1) ≤ 2 ^ n ∧
      (2 : ℚ) ^ n ≤ 10 ^ (n * 30103 / 100000 + 1) := by
  have ofNat (k : ℕ) (less : k < 1100) :
      (10 : ℚ) ^ (k * 30103 / 100000 : ℤ) ≤ 2 ^ (k : ℤ) ∧
        (2 : ℚ) ^ (k : ℤ) ≤ 10 ^ (k * 30103 / 100000 + 1 : ℤ) := by
    obtain ⟨low, high⟩ := power_bounds_nat k less
    exact ⟨by exact_mod_cast low, by exact_mod_cast high⟩
  have mono {low high : ℤ} (le : low ≤ high) : (10 : ℚ) ^ low ≤ 10 ^ high :=
    zpow_le_zpow_right₀ (by norm_num) le
  obtain ⟨k, rfl | rfl⟩ := n.eq_nat_or_neg
  · obtain ⟨low, high⟩ := ofNat k (by omega)
    exact ⟨(mono (by omega)).trans low, high⟩
  · obtain ⟨low, high⟩ := ofNat k (by omega)
    have low' := inv_anti₀ (by positivity) low
    have high' := inv_anti₀ (by positivity) high
    rw [← zpow_neg, ← zpow_neg] at low' high'
    exact ⟨(mono (by omega)).trans high', low'.trans (mono (by omega))⟩

/-- The number of bits before the point of a double. -/
def bits (x : Binary64) : ℤ :=
  x.mantissa.log2 + 1 + x.exponent

theorem tenExponentAbove_eq (x : Binary64) :
    x.tenExponentAbove = x.bits * 30103 / 100000 + 2 :=
  rfl

theorem upper_lt (x : Binary64) : x.upper < 2 ^ x.bits := by
  have long : x.mantissa + 1 ≤ 2 ^ (x.mantissa.log2 + 1) := Nat.lt_log2_self
  have long : (x.mantissa : ℚ) + 1 ≤ 2 ^ (x.mantissa.log2 + 1) := by exact_mod_cast long
  have power : (2 : ℚ) ^ (x.mantissa.log2 + 1 : ℤ) = 2 ^ (x.mantissa.log2 + 1) := by norm_cast
  rw [upper_eq, bits, zpow_add₀ two_ne_zero, power]
  gcongr
  linarith

section Search

variable {x : Binary64} (wellFormed : x.WellFormed) (positive : 0 < x.mantissa)
include wellFormed positive

theorem bits_le : x.bits ≤ 53 + x.exponent := by
  have := (Nat.log2_lt positive.ne').mpr wellFormed.mantissa_lt
  unfold bits
  omega

theorem bits_power_bounds (finite : x.exponent ≤ 971) :
    (10 : ℚ) ^ (x.tenExponentAbove - 3) ≤ 2 ^ x.bits ∧
      (2 : ℚ) ^ x.bits ≤ 10 ^ (x.tenExponentAbove - 1) := by
  have := bits_le wellFormed positive
  have := wellFormed.least_le
  have least : -1100 < x.bits := by
    unfold bits at *
    omega
  have bounds := power_bounds least (by omega)
  rw [tenExponentAbove_eq]
  convert bounds using 3 <;> ring

omit wellFormed in
theorem lower_pos : 0 < x.lower := by
  have : (0 : ℚ) < x.mantissa := by exact_mod_cast positive
  have scale : (0 : ℚ) < 2 ^ x.exponent := by positivity
  have isPositive : 0 < x.value := mul_pos this scale
  rw [lower, if_neg positive.ne']
  linarith [x.previous.value_nonneg]

/-- The grid before the first one of the search has no point between the bounds. -/
theorem not_covers_coarse (finite : x.exponent ≤ 971) (point : ℕ) :
    ¬ x.Covers (Decimal.value ⟨point, x.tenExponentAbove + 1⟩) := by
  intro covers
  cases point with
  | zero =>
    have := covers.lower_le
    simp only [Decimal.value, Nat.cast_zero, zero_mul] at this
    linarith [lower_pos positive]
  | succ point =>
    have bounds := (bits_power_bounds wellFormed positive finite).2
    have mono : (10 : ℚ) ^ (x.tenExponentAbove - 1) ≤ 10 ^ (x.tenExponentAbove + 1) :=
      zpow_le_zpow_right₀ (by norm_num) (by omega)
    have := value_le_value (x.tenExponentAbove + 1) (Nat.le_add_left 1 point)
    rw [Decimal.value_one] at this
    linarith [covers.le_upper, x.upper_lt]

theorem pointOn?_last_ne_none (finite : x.exponent ≤ 971) :
    x.pointOn? (x.tenExponentAbove - 23) ≠ none := by
  intro nothing
  refine not_covers_of_pointOn?_eq_none wellFormed positive nothing _
    (covers_pointBelow_of_fine positive ?_)
  have bits := bits_le wellFormed positive
  calc
    (10 : ℚ) ^ (x.tenExponentAbove - 23)
      = 10 ^ (x.tenExponentAbove - 3) / 10 ^ 20 := by
        rw [eq_div_iff (by norm_num), ← zpow_natCast, ← zpow_add₀ (by norm_num)]
        congr 1
        push_cast
        ring
    _ ≤ 2 ^ x.bits / 10 ^ 20 := by
        gcongr
        exact (bits_power_bounds wellFormed positive finite).1
    _ ≤ 2 ^ (53 + x.exponent) / 10 ^ 20 := by
        gcongr
        norm_num
    _ = 2 ^ 53 * 2 ^ x.exponent / 10 ^ 20 := by
        rw [zpow_add₀ two_ne_zero]
        norm_cast
    _ ≤ 2 ^ x.exponent / 4 := by
        have scale : (0 : ℚ) < 2 ^ x.exponent := by positivity
        linarith

end Search

/-! ## The decimal that is found -/

theorem inv_bounds (two ten : ℕ) (twoPositive : 0 < two) (tenPositive : 0 < ten)
    (low : 2 * ten < two) (high : 100 * two < 203 * ten) :
    (2 : ℚ) * (two : ℚ)⁻¹ < (ten : ℚ)⁻¹ ∧ (100 : ℚ) * (ten : ℚ)⁻¹ < 203 * (two : ℚ)⁻¹ := by
  have low : (2 : ℚ) * ten < two := by exact_mod_cast low
  have high : (100 : ℚ) * two < 203 * ten := by exact_mod_cast high
  have twoPositive : (0 : ℚ) < two := by exact_mod_cast twoPositive
  have tenPositive : (0 : ℚ) < ten := by exact_mod_cast tenPositive
  constructor
  · field_simp
    exact low
  · field_simp
    linarith

/-- The power of ten between twice and three times the least double. -/
theorem tiny_bounds :
    (2 : ℚ) * 2 ^ (-1074 : ℤ) < 10 ^ (-323 : ℤ) ∧
      (100 : ℚ) * 10 ^ (-323 : ℤ) < 203 * 2 ^ (-1074 : ℤ) := by
  have bounds := inv_bounds (2 ^ 1074) (10 ^ 323) (Nat.pow_pos two_pos)
    (Nat.pow_pos (by norm_num)) (by decide +kernel) (by decide +kernel)
  simpa only [zpow_neg, zpow_ofNat, Nat.cast_pow, Nat.cast_ofNat] using bounds

section Found

variable {x : Binary64} {tenExponent : ℤ} {point : ℕ}
  (wellFormed : x.WellFormed) (positive : 0 < x.mantissa)
  (best : x.IsBestPoint tenExponent point)
  (noCoarser : ∀ coarse : ℕ, ¬ x.Covers (Decimal.value ⟨coarse, tenExponent + 1⟩))

include noCoarser in
theorem exponent_le {other : Decimal} (covers : x.Covers other.value) :
    other.exponent ≤ tenExponent := by
  by_contra coarser
  have onGrid := Decimal.value_finer other.digits (not_le.mp coarser)
  exact noCoarser _ (onGrid ▸ covers)

include positive best in
theorem point_pos : 0 < point := by
  by_contra isZero
  have := best.covers.lower_le
  simp only [Decimal.value, Nat.eq_zero_of_not_pos isZero, Nat.cast_zero, zero_mul] at this
  linarith [lower_pos positive]

include positive best noCoarser in
/-- A number between the bounds that lies below all numbers with as many digits as the one found
leaves it one digit only, since the power of ten between them is on a coarser grid otherwise. -/
theorem covers_power {other : ℚ} (covers : x.Covers other)
    (less : other < 10 ^ (Decimal.length ⟨point, tenExponent⟩ - 1 + tenExponent)) :
    Decimal.length ⟨point, tenExponent⟩ = 1 ∧ x.Covers (Decimal.value ⟨1, tenExponent⟩) := by
  have le := Decimal.le_value (d := ⟨point, tenExponent⟩) (point_pos positive best)
  have between := covers.convex best.covers less.le le
  have long := Decimal.length_pos ⟨point, tenExponent⟩
  obtain one | more := Nat.eq_or_lt_of_le long
  · refine ⟨one.symm, ?_⟩
    rw [← one] at between
    simpa [Decimal.value_one] using between
  · refine absurd ?_ (noCoarser (10 ^ (Decimal.length ⟨point, tenExponent⟩ - 2)))
    convert between using 1
    have power : (Decimal.length ⟨point, tenExponent⟩ - 1 + tenExponent : ℤ) =
        (Decimal.length ⟨point, tenExponent⟩ - 2 : ℕ) + (tenExponent + 1) := by omega
    rw [power, zpow_add₀ (by norm_num), zpow_natCast, Decimal.value]
    push_cast
    rfl

include wellFormed positive in
/-- A power of ten above a double and a number with one digit below that power of ten are not both
between the bounds, unless the power of ten is the nearer one. -/
theorem power_nearer {other : Decimal} (isPower : x.Covers (Decimal.value ⟨1, tenExponent⟩))
    (covers : x.Covers other.value) (oneDigit : other.length = 1)
    (finer : other.exponent < tenExponent) (above : x.value < Decimal.value ⟨1, tenExponent⟩) :
    Decimal.value ⟨1, tenExponent⟩ - x.value < x.value - other.value := by
  have small : other.value ≤ 9 / 10 * 10 ^ tenExponent := by
    have digits : other.digits < 10 ^ 1 :=
      (Nat.length_toDigits_le_iff (by norm_num) one_pos).mp oneDigit.le
    have digits : (other.digits : ℚ) ≤ 9 := by exact_mod_cast Nat.le_of_lt_succ digits
    have power : (10 : ℚ) ^ other.exponent ≤ 10 ^ (tenExponent - 1) :=
      zpow_le_zpow_right₀ (by norm_num) (by omega)
    calc
      other.value ≤ 9 * 10 ^ (tenExponent - 1) := by
        unfold Decimal.value
        gcongr
      _ = 9 / 10 * 10 ^ tenExponent := by
        rw [zpow_sub_one₀ (by norm_num)]
        ring
  rw [Decimal.value_one] at isPower above ⊢
  have scale : (0 : ℚ) < 2 ^ x.exponent := by positivity
  have low : ((x.mantissa : ℚ) - 1 / 2) * 2 ^ x.exponent ≤ other.value := by
    refine le_trans ?_ covers.lower_le
    rw [lower_eq, if_neg positive.ne']
    split <;> linarith
  have high := isPower.le_upper
  rw [upper_eq] at high
  rw [value] at above ⊢
  have few : x.mantissa < 10 := by
    have : (x.mantissa : ℚ) * 2 ^ x.exponent < 10 * 2 ^ x.exponent := by linarith
    exact_mod_cast lt_of_mul_lt_mul_right this scale.le
  have least : x.exponent = -1074 := wellFormed.normal.resolve_left (by omega)
  obtain ⟨twice, thrice⟩ := tiny_bounds
  rw [least] at scale low high above ⊢
  generalize (2 : ℚ) ^ (-1074 : ℤ) = unit at *
  have isTiny : tenExponent = -323 := by
    have one : (1 : ℚ) ≤ x.mantissa := by exact_mod_cast positive
    obtain smaller | same | greater := lt_trichotomy tenExponent (-323)
    · have bound : (10 : ℚ) ^ (tenExponent + 1) ≤ 10 ^ (-323 : ℤ) :=
        zpow_le_zpow_right₀ (by norm_num) (by omega)
      rw [zpow_add_one₀ (by norm_num)] at bound
      nlinarith
    · exact same
    · have bound : (10 : ℚ) ^ (-323 + 1 : ℤ) ≤ 10 ^ tenExponent :=
        zpow_le_zpow_right₀ (by norm_num) (by omega)
      rw [zpow_add_one₀ (by norm_num)] at bound
      linarith
  subst isTiny
  have two : (2 : ℚ) ≤ x.mantissa := by
    have : (1 : ℚ) * unit < x.mantissa * unit := by linarith
    exact_mod_cast lt_of_mul_lt_mul_right this scale.le
  nlinarith

include wellFormed positive best noCoarser in
/-- A decimal with as many digits as the one found that is on a finer grid is farther away. -/
theorem nearer_of_finer {other : Decimal} (covers : x.Covers other.value)
    (sameLength : other.length = Decimal.length ⟨point, tenExponent⟩)
    (finer : other.exponent < tenExponent) :
    |Decimal.value ⟨point, tenExponent⟩ - x.value| < |other.value - x.value| := by
  have short : other.value < 10 ^ (Decimal.length ⟨point, tenExponent⟩ - 1 + tenExponent) := by
    refine other.value_lt.trans_le (zpow_le_zpow_right₀ (by norm_num) ?_)
    rw [sameLength]
    omega
  obtain ⟨oneDigit, isPower⟩ := covers_power positive best noCoarser covers short
  have less : other.value < Decimal.value ⟨1, tenExponent⟩ := by
    rw [Decimal.value_one]
    simpa [oneDigit] using short
  refine (best.nearest 1 isPower).trans_lt ?_
  obtain below | above := le_or_gt (Decimal.value ⟨1, tenExponent⟩) x.value
  · rw [abs_of_nonpos (by linarith), abs_of_nonpos (by linarith)]
    linarith
  · have nearer := power_nearer wellFormed positive isPower covers (sameLength.trans oneDigit) finer
      above
    rw [abs_of_pos (by linarith), abs_of_neg (by linarith)]
    linarith

include wellFormed positive best noCoarser in
theorem isShortest_of_best : Decimal.IsShortest ⟨point, tenExponent⟩ x := by
  have covered {other : Decimal} : x.IsNearest other.value ↔ x.Covers other.value :=
    isNearest_iff_covers wellFormed other.value_nonneg
  refine ⟨covered.mpr best.covers, fun other isOther => ?_, fun other isOther sameLength => ?_,
    fun other isOther sameLength different tie => ?_⟩
  · have finer := exponent_le noCoarser (covered.mp isOther)
    by_contra shorter
    have short : other.value < 10 ^ (Decimal.length ⟨point, tenExponent⟩ - 1 + tenExponent) := by
      refine other.value_lt.trans_le (zpow_le_zpow_right₀ (by norm_num) ?_)
      omega
    have := (covers_power positive best noCoarser (covered.mp isOther) short).1
    have := other.length_pos
    omega
  · obtain same | finer := (exponent_le noCoarser (covered.mp isOther)).eq_or_lt
    · subst same
      exact best.nearest other.digits (covered.mp isOther)
    · exact (nearer_of_finer wellFormed positive best noCoarser (covered.mp isOther) sameLength
        finer).le
  · obtain same | finer := (exponent_le noCoarser (covered.mp isOther)).eq_or_lt
    · subst same
      refine best.even other.digits (covered.mp isOther) (fun isPoint => different ?_) tie
      rw [← isPoint]
    · have := nearer_of_finer wellFormed positive best noCoarser (covered.mp isOther) sameLength
        finer
      exact absurd tie this.ne

include wellFormed positive best noCoarser in
/-- All shortest decimals of a double have the same value. -/
theorem value_eq_of_isShortest {other : Decimal} (isShortest : other.IsShortest x) :
    other.value = Decimal.value ⟨point, tenExponent⟩ := by
  have found := isShortest_of_best wellFormed positive best noCoarser
  have covers := isShortest.rounds.covers other.value_nonneg
  have sameLength : other.length = Decimal.length ⟨point, tenExponent⟩ :=
    le_antisymm (isShortest.fewest _ found.rounds) (found.fewest _ isShortest.rounds)
  have tie : |Decimal.value ⟨point, tenExponent⟩ - x.value| = |other.value - x.value| :=
    le_antisymm (found.nearest _ isShortest.rounds sameLength)
      (isShortest.nearest _ found.rounds sameLength.symm)
  by_contra different
  have evenPoint : Even point := found.even _ isShortest.rounds sameLength different tie
  have evenOther := isShortest.even _ found.rounds sameLength.symm (Ne.symm different) tie.symm
  obtain finer | same := (exponent_le noCoarser covers).lt_or_eq
  · exact tie.not_lt (nearer_of_finer wellFormed positive best noCoarser covers sameLength finer)
  · -- A grid point between two with even digits would be nearer than both.
    obtain ⟨digits, exponent⟩ := other
    obtain rfl : exponent = tenExponent := same
    have notSame : digits ≠ point := fun isPoint => different (isPoint ▸ rfl)
    rw [Nat.even_iff] at evenPoint evenOther
    obtain less | greater := Nat.lt_or_gt_of_ne notSame
    · have above := value_lt_value exponent (Nat.lt_succ_self digits)
      have below := value_lt_value exponent (by simp only at *; omega : digits + 1 < point)
      have between := covers.convex best.covers above.le below.le
      have := abs_sub_lt_of_between above below tie.symm
      linarith [best.nearest _ between]
    · have above := value_lt_value exponent (Nat.lt_succ_self point)
      have below := value_lt_value exponent (by simp only at *; omega : point + 1 < digits)
      have between := best.covers.convex covers above.le below.le
      have := abs_sub_lt_of_between above below tie
      linarith [best.nearest _ between]

end Found

theorem value_eq_of_zero {x : Binary64} (isZero : x.mantissa = 0) :
    Decimal.value ⟨0, 0⟩ = x.value := by
  simp [Decimal.value, value, isZero]

theorem isShortest_zero {x : Binary64} (wellFormed : x.WellFormed) (isZero : x.mantissa = 0) :
    Decimal.IsShortest ⟨0, 0⟩ x := by
  have same := value_eq_of_zero isZero
  refine ⟨same ▸ wellFormed.isNearest_value, fun other _ => other.length_pos, fun other _ _ => ?_,
    fun _ _ _ _ _ => Even.zero⟩
  rw [same, sub_self, abs_zero]
  exact abs_nonneg _

/-- The search for a double that is not zero ends on a grid with a best point, and the next coarser
grid has none. -/
theorem exists_shortest {x : Binary64} (wellFormed : x.WellFormed) (finite : x.exponent ≤ 971)
    (positive : 0 < x.mantissa) :
    ∃ point tenExponent, x.shortest = ⟨point, tenExponent⟩ ∧ x.IsBestPoint tenExponent point ∧
      ∀ coarse : ℕ, ¬ x.Covers (Decimal.value ⟨coarse, tenExponent + 1⟩) := by
  have ends := pointOn?_last_ne_none wellFormed positive finite
  obtain ⟨point, tenExponent, isResult, isFound, isFirst⟩ :=
    x.exists_searchGrids 24 ⟨23, by norm_num, ends⟩
  refine ⟨point, tenExponent, ?_, isBestPoint_of_pointOn? wellFormed positive isFound, ?_⟩
  · rw [shortest, if_neg (by simp [isZero, positive.ne']), isResult]
  · intro coarse
    obtain rfl | none := isFirst
    · exact not_covers_coarse wellFormed positive finite coarse
    · exact not_covers_of_pointOn?_eq_none wellFormed positive none coarse

theorem shortest_of_zero {x : Binary64} (isNothing : x.mantissa = 0) : x.shortest = ⟨0, 0⟩ := by
  rw [shortest, if_pos (by simp [isZero, isNothing])]

theorem isShortest_shortest {x : Binary64} (wellFormed : x.WellFormed)
    (finite : x.exponent ≤ 971) : x.shortest.IsShortest x := by
  obtain isZero | positive := Nat.eq_zero_or_pos x.mantissa
  · rw [shortest_of_zero isZero]
    exact isShortest_zero wellFormed isZero
  · obtain ⟨point, tenExponent, isResult, best, noCoarser⟩ :=
      exists_shortest wellFormed finite positive
    rw [isResult]
    exact isShortest_of_best wellFormed positive best noCoarser

theorem value_shortest_eq {x : Binary64} (wellFormed : x.WellFormed) (finite : x.exponent ≤ 971)
    {d : Decimal} (isShortest : d.IsShortest x) : d.value = x.shortest.value := by
  obtain isZero | positive := Nat.eq_zero_or_pos x.mantissa
  · have found := isShortest_zero wellFormed isZero
    have isValue := value_eq_of_zero isZero
    have sameLength : d.length = Decimal.length ⟨0, 0⟩ :=
      le_antisymm (isShortest.fewest _ found.rounds) (found.fewest _ isShortest.rounds)
    have nearest := isShortest.nearest _ found.rounds sameLength.symm
    rw [isValue, sub_self, abs_zero, abs_nonpos_iff, sub_eq_zero] at nearest
    rw [shortest_of_zero isZero, isValue, nearest]
  · obtain ⟨point, tenExponent, isResult, best, noCoarser⟩ :=
      exists_shortest wellFormed finite positive
    rw [isResult]
    exact value_eq_of_isShortest wellFormed positive best noCoarser isShortest

end Binary64

end SearchQuery
