/-!
# Natural numbers in arguments

A natural number given by a user: decimal digits, perhaps with a plus sign in front of them.
-/

set_option autoImplicit false

namespace SearchQuery.Text

def digits? : List Char → Option Nat
  | [] => none
  | digits => if digits.all Char.isDigit then some (Nat.ofDigitChars 10 digits 0) else none

def natural? : List Char → Option Nat
  | '+' :: rest => digits? rest
  | text => digits? text

def word? (text : String) : Option UInt64 :=
  (natural? text.toList).bind fun n => if n < UInt64.size then some (UInt64.ofNat n) else none

end SearchQuery.Text
