import SearchQuery.Decimal.Binary64
import SearchQuery.Text.Hex

/-!
# Numbers in TOML

Underscores may stand between the digits of a number. A decimal number has no leading zeros and may
have a sign; a number in hexadecimal, octal or binary has a prefix and no sign. A float is told from
an integer by its point or its exponent, and there are words for infinity and for what is no number.

The layout of an integer is looser than its digits. A prefix alone has it, and so does a text with
underscores beside digits and anything else elsewhere. Such a text is a value, but it spells no
number.
-/

set_option autoImplicit false

namespace SearchQuery.Toml

/-- The digits of a number without the underscores between them. -/
def digits? (isDigit : Char → Bool) : List Char → Option (List Char)
  | [] => none
  | [c] => if isDigit c then some [c] else none
  | c :: '_' :: rest => if isDigit c then (digits? isDigit rest).map (c :: ·) else none
  | c :: rest => if isDigit c then (digits? isDigit rest).map (c :: ·) else none

/-- Splits the sign off a number: whether it is negative, and what follows. -/
def splitSign : List Char → Bool × List Char
  | '+' :: rest => (false, rest)
  | '-' :: rest => (true, rest)
  | text => (false, text)

/-- The digits of a decimal number, which may have a sign. They must not start with a zero that
could be left out. -/
def decimalDigits? (text : List Char) : Option (List Char) :=
  match digits? Char.isDigit (splitSign text).2 with
  | some ('0' :: _ :: _) => none
  | found => found

def valueOf (base : Nat) (digits : List Char) : Nat :=
  digits.foldl (fun value digit => value * base + (Text.hexValue? digit).getD 0) 0

def prefixed? : List Char → Option Nat
  | '0' :: 'x' :: rest => (digits? (fun c => (Text.hexValue? c).isSome) rest).map (valueOf 16)
  | '0' :: 'o' :: rest => (digits? (fun c => decide ('0' ≤ c ∧ c ≤ '7')) rest).map (valueOf 8)
  | '0' :: 'b' :: rest => (digits? (fun c => decide (c = '0' ∨ c = '1')) rest).map (valueOf 2)
  | _ => none

def integer? (text : List Char) : Option Int :=
  match prefixed? text with
  | some value => some value
  | none =>
    (decimalDigits? text).map fun digits =>
      if (splitSign text).1 then -(valueOf 10 digits : Int) else valueOf 10 digits

def isPrefixAlone (text : List Char) : Bool :=
  text == ['0', 'x'] || text == ['0', 'o'] || text == ['0', 'b']

/-- Whether every underscore of a text stands between two digits, where those of hexadecimal count
as such. The first argument is the character before the text. -/
def dividesDigits (before : Char) : List Char → Bool
  | [] => true
  | c :: rest =>
    (c != '_' || ((Text.hexValue? before).isSome &&
      rest.head?.any fun next => (Text.hexValue? next).isSome)) && dividesDigits c rest

/-- Whether a text is laid out like a decimal integer with underscores: digits without a leading
zero, which may have a sign, then an underscore, and behind it whatever leaves all underscores
between digits and does not make the text a float. -/
def isDividedLayout (text : List Char) : Bool :=
  let body := (splitSign text).2
  let divided := body.dropWhile Char.isDigit
  body.head?.any (fun c => c.isDigit && c != '0') && divided.head? == some '_' &&
    dividesDigits '0' divided && ['.', 'e', 'E', ' '].all (!text.contains ·)

/-- Whether a text is laid out like an integer, although it may spell none. -/
def hasIntegerLayout (text : List Char) : Bool :=
  isPrefixAlone text || isDividedLayout text

def splitBefore (test : Char → Bool) (text : List Char) : List Char × List Char :=
  (text.takeWhile (!test ·), text.dropWhile (!test ·))

/-- A bound of the powers of ten for which it has to be worked out whether a number is in the range
of doubles. -/
def exponentBound : Int := 400

def inDoubleRange (digits : List Char) (exponent : Int) : Bool :=
  let value := valueOf 10 digits
  let leading := exponent + (Nat.toDigits 10 value).length
  if value = 0 ∨ leading < -exponentBound then true
  else if exponentBound < leading then false
  else match exponent with
    | .ofNat k => (Binary64.ofRatio? (value * Nat.pow 10 k) 1).isSome
    | .negSucc k => (Binary64.ofRatio? value (Nat.pow 10 (k + 1))).isSome

/-- The exponent of a float, from its letter on; none is zero. -/
def exponent? : List Char → Option Int
  | [] => some 0
  | _ :: rest =>
    let (negative, body) := splitSign rest
    (digits? Char.isDigit body).map fun digits =>
      if negative then -(valueOf 10 digits : Int) else valueOf 10 digits

/-- The fraction of a float, from its point on; none is empty. -/
def fraction? : List Char → Option (List Char)
  | [] => some []
  | _ :: rest => digits? Char.isDigit rest

/-- Whether the float that a text spells is in the range of doubles, if the text spells one. -/
def float? (text : List Char) : Option Bool :=
  let body := (splitSign text).2
  if body = ['i', 'n', 'f'] ∨ body = ['n', 'a', 'n'] then some true
  else
    let (mantissa, exponentPart) := splitBefore (fun c => c == 'e' || c == 'E') text
    let (whole, fractionPart) := splitBefore (· == '.') mantissa
    if fractionPart = [] ∧ exponentPart = [] then none
    else match decimalDigits? whole, fraction? fractionPart, exponent? exponentPart with
      | some whole, some fraction, some exponent =>
        some (inDoubleRange (whole ++ fraction) (exponent - fraction.length))
      | _, _, _ => none

end SearchQuery.Toml
