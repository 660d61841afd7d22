import SearchQuery.Decimal.Binary64

/-!
# The shortest decimal of a double

A double stands for all the reals that round to it. Its shortest decimal is the one with the fewest
digits among these reals; of several, the nearest to the double. It is found on the coarsest decimal
grid that has a point between the bounds of that interval: if any point of a grid lies there, so
does one of the two points next to the double. The bounds belong to the interval exactly if the
mantissa is even, since ties are rounded to even.
-/

set_option autoImplicit false

namespace SearchQuery

/-- The decimal `digits * 10 ^ exponent`. -/
structure Decimal where
  digits : Nat
  exponent : Int
  deriving DecidableEq, Repr

namespace Binary64

/-- The quotient of a quarter of a double's last place by a power of ten. -/
def quarterOver (x : Binary64) (tenExponent : Int) : Nat × Nat :=
  let (num, den) := scaled 1 1 (2 - x.exponent)
  match tenExponent with
  | .ofNat k => (num, den * Nat.pow 10 k)
  | .negSucc k => (num * Nat.pow 10 (k + 1), den)

/-- The lower bound of the reals that round to a double, in quarters of its last place. Below a
power of two the doubles lie twice as close. -/
def lowQuarters (x : Binary64) : Nat :=
  if x.mantissa = Nat.pow 2 52 ∧ leastExponent < x.exponent then 4 * x.mantissa - 1
  else 4 * x.mantissa - 2

/-- The upper bound of the reals that round to a double, in quarters of its last place. -/
def highQuarters (x : Binary64) : Nat :=
  4 * x.mantissa + 2

/-- Whether a point of the decimal grid `10 ^ tenExponent` rounds to a double. -/
def roundsFrom (x : Binary64) (tenExponent : Int) (point : Nat) : Bool :=
  let (num, den) := x.quarterOver tenExponent
  let low := x.lowQuarters * num
  let high := x.highQuarters * num
  let here := point * den
  if x.mantissa % 2 = 0 then decide (low ≤ here) && decide (here ≤ high)
  else decide (low < here) && decide (here < high)

/-- The point of the decimal grid `10 ^ tenExponent` that rounds to a double and is nearest to it; of
two that are equally near, the even one. -/
def pointOn? (x : Binary64) (tenExponent : Int) : Option Nat :=
  let (num, den) := x.quarterOver tenExponent
  let exact := 4 * x.mantissa * num
  let below := exact / den
  let above := below + 1
  match x.roundsFrom tenExponent below, x.roundsFrom tenExponent above with
  | true, false => some below
  | false, true => some above
  | false, false => none
  | true, true =>
    let toBelow := exact - below * den
    let toAbove := above * den - exact
    if toBelow < toAbove then some below
    else if toAbove < toBelow then some above
    else if below % 2 = 0 then some below
    else some above

/-- Goes to finer and finer decimal grids until one has a point that rounds to a double. -/
def searchGrids (x : Binary64) : Nat → Int → Decimal
  | 0, tenExponent => ⟨0, tenExponent⟩
  | steps + 1, tenExponent =>
    match x.pointOn? tenExponent with
    | some point => ⟨point, tenExponent⟩
    | none => searchGrids x steps (tenExponent - 1)

def tenExponentAbove (x : Binary64) : Int :=
  (Int.ofNat (x.mantissa.log2 + 1) + x.exponent) * 30103 / 100000 + 2

/-- The shortest decimal that rounds to a double. -/
def shortest (x : Binary64) : Decimal :=
  if x.isZero then ⟨0, 0⟩ else searchGrids x 24 x.tenExponentAbove

end Binary64

namespace Decimal

/-- How far a decimal is written out before it is given an exponent. -/
structure Format where
  /-- The least power of ten of a leading digit that is written out. -/
  leastWrittenOut : Int
  /-- The greatest power of ten of a leading digit that is written out. -/
  greatestWrittenOut : Int

/-- The digits of a decimal that is written out, at least one of them behind the point. -/
def writtenOut (digits : List Char) (leading : Int) : List Char :=
  match leading with
  | .negSucc k => '0' :: '.' :: (List.replicate k '0' ++ digits)
  | .ofNat k =>
    if digits.length ≤ k + 1 then
      digits ++ List.replicate (k + 1 - digits.length) '0' ++ ['.', '0']
    else digits.take (k + 1) ++ '.' :: digits.drop (k + 1)

/-- The digits of a decimal with an exponent, which has a sign. -/
def withExponent (digits : List Char) (leading : Int) : List Char :=
  let mantissa := match digits with
    | [] => []
    | [digit] => [digit]
    | digit :: rest => digit :: '.' :: rest
  let exponent := match leading with
    | .ofNat k => '+' :: Nat.toDigits 10 k
    | .negSucc k => '-' :: Nat.toDigits 10 (k + 1)
  mantissa ++ 'e' :: exponent

def chars (format : Format) (decimal : Decimal) : List Char :=
  if decimal.digits = 0 then ['0', '.', '0']
  else
    let digits := Nat.toDigits 10 decimal.digits
    let leading := decimal.exponent + Int.ofNat digits.length - 1
    if format.leastWrittenOut ≤ leading ∧ leading ≤ format.greatestWrittenOut then
      writtenOut digits leading
    else withExponent digits leading

end Decimal

end SearchQuery
