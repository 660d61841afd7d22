import SearchQuery.Decimal.Shortest
import SearchQuery.Json.Numeral

/-!
# The text of a number

A number that was read from JSON is rendered as text: an integer that fits into 64 bits, with or
without a sign, by its digits, and any other number by the shortest decimal of its double. A number
beyond the range of doubles has no text.

The double is formed as the reader of the numbers forms it: as many leading digits as fit into 64
bits make up an integer, the others only count, and the double nearest to the integer is multiplied
or divided by the double nearest to a power of ten. The result may differ from the nearest double in
the last place.
-/

set_option autoImplicit false

namespace SearchQuery

namespace Numeral

/-- Appends digits to a number as long as it fits into 64 bits, and gives the digits left over. -/
def takeDigits (value : Nat) : List Char → Nat × List Char
  | [] => (value, [])
  | digit :: rest =>
    let longer := value * 10 + (digit.toNat - '0'.toNat)
    if longer < UInt64.size then takeDigits longer rest else (value, digit :: rest)

/-- The greatest power of ten that is a double. -/
def greatestPower : Nat := 308

def powerOfTen (k : Nat) : Binary64 :=
  (Binary64.ofNat? (Nat.pow 10 k)).getD Binary64.zero

/-- Divides a double that is at most a 64-bit integer by a power of ten, in steps that are doubles.
Nothing is left of it beyond the square of the greatest power. -/
def divideByPower (x : Binary64) (k : Nat) : Option Binary64 :=
  if k ≤ greatestPower then x.over? (powerOfTen k)
  else if k ≤ 2 * greatestPower then
    (x.over? (powerOfTen greatestPower)).bind (·.over? (powerOfTen (k - greatestPower)))
  else some Binary64.zero

def multiplyByPower (x : Binary64) (k : Nat) : Option Binary64 :=
  if k ≤ greatestPower then x.times? (powerOfTen k)
  else if x.isZero then some x
  else none

def exponentValue : Option (Bool × List Char) → Int
  | none => 0
  | some (negative, digits) =>
    let value := Int.ofNat (Nat.ofDigitChars 10 digits 0)
    if negative then -value else value

/-- The double of a number without its sign, unless it is infinite. -/
def double? (numeral : Numeral) : Option Binary64 :=
  let (leading, leftOver) := takeDigits 0 numeral.whole
  let (significand, ignored) := takeDigits leading numeral.fraction
  let exponent := Int.ofNat leftOver.length -
    Int.ofNat (numeral.fraction.length - ignored.length) + exponentValue numeral.exponent
  match Binary64.ofNat? significand with
  | none => none
  | some x =>
    match exponent with
    | .ofNat k => multiplyByPower x k
    | .negSucc k => divideByPower x (k + 1)

/-- Numbers are written out from five places behind the point to sixteen places before it. -/
def format : Decimal.Format := ⟨-5, 15⟩

/-- The text of a number, unless it is beyond the range of doubles. -/
def text? (numeral : Numeral) : Option String :=
  let sign := if numeral.negative then ['-'] else []
  let bound := if numeral.negative then Nat.pow 2 63 + 1 else UInt64.size
  if numeral.isInteger && decide (numeral.wholeValue < bound) &&
      !(numeral.negative && numeral.wholeValue == 0) then
    some (String.ofList (sign ++ Nat.toDigits 10 numeral.wholeValue))
  else numeral.double?.map fun x => String.ofList (sign ++ x.shortest.chars format)

end Numeral

end SearchQuery
