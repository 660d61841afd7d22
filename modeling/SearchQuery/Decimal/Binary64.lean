/-!
# Double precision, exactly

The finite doubles that are not negative, as a mantissa times a power of two, with their arithmetic
in natural numbers: an exact quotient is formed first and then rounded to the nearest double, a tie
going to the even mantissa. An infinite result is no double.
-/

set_option autoImplicit false

namespace SearchQuery

/-- The double `mantissa * 2 ^ exponent`. -/
structure Binary64 where
  mantissa : Nat
  exponent : Int
  deriving DecidableEq, Repr

namespace Binary64

def leastExponent : Int := -1074

def greatestExponent : Int := 971

def zero : Binary64 := ⟨0, leastExponent⟩

def isZero (x : Binary64) : Bool := x.mantissa == 0

/-- The nearest integer to a quotient; of two that are equally near, the even one. -/
def roundQuotient (num den : Nat) : Nat :=
  let quotient := num / den
  let twice := 2 * (num % den)
  if twice < den then quotient
  else if den < twice then quotient + 1
  else if quotient % 2 = 0 then quotient
  else quotient + 1

/-- A quotient divided by a power of two, as a numerator and a denominator. -/
def scaled (num den : Nat) : Int → Nat × Nat
  | .ofNat k => (num, den * Nat.pow 2 k)
  | .negSucc k => (num * Nat.pow 2 (k + 1), den)

/-- The exponent for which a positive quotient has a mantissa of 53 bits, or the least one. -/
def exponentFor (num den : Nat) : Int :=
  let low : Int := Int.ofNat num.log2 - Int.ofNat den.log2 - 53
  let (scaledNum, scaledDen) := scaled num den low
  let exact := if scaledNum / scaledDen < Nat.pow 2 53 then low else low + 1
  max exact leastExponent

/-- The double nearest to a quotient, unless that is infinite. -/
def ofRatio? (num den : Nat) : Option Binary64 :=
  if num = 0 then some zero
  else
    let exponent := exponentFor num den
    let (scaledNum, scaledDen) := scaled num den exponent
    let mantissa := roundQuotient scaledNum scaledDen
    let rounded : Binary64 :=
      if mantissa = Nat.pow 2 53 then ⟨Nat.pow 2 52, exponent + 1⟩ else ⟨mantissa, exponent⟩
    if greatestExponent < rounded.exponent then none else some rounded

def ofNat? (n : Nat) : Option Binary64 :=
  ofRatio? n 1

def times? (x y : Binary64) : Option Binary64 :=
  let (num, den) := scaled (x.mantissa * y.mantissa) 1 (-(x.exponent + y.exponent))
  ofRatio? num den

def over? (x y : Binary64) : Option Binary64 :=
  let (num, den) := scaled x.mantissa y.mantissa (y.exponent - x.exponent)
  ofRatio? num den

end Binary64

end SearchQuery
