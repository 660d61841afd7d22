/-!
# Hexadecimal digits

Code points are spelled with hexadecimal digits. Letters of either case are read.
-/

set_option autoImplicit false

namespace SearchQuery.Text

/-- A hexadecimal digit, lower case from ten on. -/
def hexDigit (n : Nat) : Char :=
  n.digitChar

def hexValue? (c : Char) : Option Nat :=
  if '0' ≤ c ∧ c ≤ '9' then some (c.toNat - '0'.toNat)
  else if 'a' ≤ c ∧ c ≤ 'f' then some (c.toNat - 'a'.toNat + 10)
  else if 'A' ≤ c ∧ c ≤ 'F' then some (c.toNat - 'A'.toNat + 10)
  else none

/-- The number that hexadecimal digits spell, going on from a number that the digits before them
spell. -/
def hexNumber? (value : Nat) : List Char → Option Nat
  | [] => some value
  | digit :: rest => (hexValue? digit).bind fun low => hexNumber? (value * 16 + low) rest

end SearchQuery.Text
