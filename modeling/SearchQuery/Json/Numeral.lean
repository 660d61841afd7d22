/-!
# Numbers as they are written in JSON

A number keeps the digits it was written with, because whether it counts as an integer depends on
its spelling: `1.0` and `1e2` are no integers.
-/

set_option autoImplicit false

namespace SearchQuery

/-- A number as it is written: digits, and after them perhaps a fraction and an exponent. -/
structure Numeral where
  negative : Bool := false
  whole : List Char
  /-- The digits after the point; none when there is no point. -/
  fraction : List Char := []
  /-- The exponent: whether it is negative, and its digits. -/
  exponent : Option (Bool × List Char) := none
  deriving DecidableEq, Repr

namespace Numeral

def ofNat (n : Nat) : Numeral :=
  { whole := Nat.toDigits 10 n }

def chars (numeral : Numeral) : List Char :=
  (if numeral.negative then ['-'] else []) ++ numeral.whole ++
    (if numeral.fraction = [] then [] else '.' :: numeral.fraction) ++
    match numeral.exponent with
    | none => []
    | some (negative, digits) => 'e' :: (if negative then ['-'] else []) ++ digits

def isInteger (numeral : Numeral) : Bool :=
  numeral.fraction.isEmpty && numeral.exponent.isNone

def wholeValue (numeral : Numeral) : Nat :=
  Nat.ofDigitChars 10 numeral.whole 0

/-- The number as a 64-bit word: only an integer without a sign that fits is one. -/
def toUInt64? (numeral : Numeral) : Option UInt64 :=
  if numeral.isInteger && !numeral.negative && decide (numeral.wholeValue < UInt64.size) then
    some (UInt64.ofNat numeral.wholeValue)
  else none

theorem toUInt64?_ofNat (word : UInt64) : (ofNat word.toNat).toUInt64? = some word := by
  have small : word.toNat < UInt64.size := word.toNat_lt
  simp only [toUInt64?, ofNat, isInteger, wholeValue, Nat.ofDigitChars_ten_toDigits, small]
  simp

def readDigits (text : List Char) : List Char × List Char :=
  (text.takeWhile Char.isDigit, text.dropWhile Char.isDigit)

/-- Reads the digits before the point: a zero alone, or digits that do not start with one. -/
def readWhole? : List Char → Option (List Char × List Char)
  | [] => none
  | '0' :: rest => some (['0'], rest)
  | c :: rest =>
    if c.isDigit then
      let (digits, unread) := readDigits rest
      some (c :: digits, unread)
    else none

/-- Reads a fraction, if a point follows: the point has to have digits after it. -/
def readFraction? : List Char → Option (List Char × List Char)
  | '.' :: rest =>
    match readDigits rest with
    | ([], _) => none
    | (digits, unread) => some (digits, unread)
  | text => some ([], text)

def readExponentSign : List Char → Bool × List Char
  | '+' :: rest => (false, rest)
  | '-' :: rest => (true, rest)
  | text => (false, text)

/-- Reads an exponent, if a letter E follows: it has to have digits after it. -/
def readExponent? : List Char → Option (Option (Bool × List Char) × List Char)
  | [] => some (none, [])
  | c :: rest =>
    if c = 'e' ∨ c = 'E' then
      let (negative, text) := readExponentSign rest
      match readDigits text with
      | ([], _) => none
      | (digits, unread) => some (some (negative, digits), unread)
    else some (none, c :: rest)

def readUnsigned? (negative : Bool) (text : List Char) : Option (Numeral × List Char) :=
  match readWhole? text with
  | none => none
  | some (whole, afterWhole) =>
    match readFraction? afterWhole with
    | none => none
    | some (fraction, afterFraction) =>
      match readExponent? afterFraction with
      | none => none
      | some (exponent, unread) => some (⟨negative, whole, fraction, exponent⟩, unread)

def read? : List Char → Option (Numeral × List Char)
  | '-' :: rest => readUnsigned? true rest
  | text => readUnsigned? false text

end Numeral

end SearchQuery
