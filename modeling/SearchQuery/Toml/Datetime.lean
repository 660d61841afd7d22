/-!
# Dates and times in TOML

A date, a time of day, or both with a letter or a blank between them; then a zone may follow. Dates
are those of the calendar. A time of day may leave out its seconds, and a minute may have a leap
second.
-/

set_option autoImplicit false

namespace SearchQuery.Toml

def twoDigits? (tens ones : Char) : Option Nat :=
  if tens.isDigit && ones.isDigit then
    some ((tens.toNat - '0'.toNat) * 10 + (ones.toNat - '0'.toNat))
  else none

def spellsWithin (low high : Nat) (tens ones : Char) : Bool :=
  match twoDigits? tens ones with
  | some value => decide (low ≤ value) && decide (value ≤ high)
  | none => false

def isLeapYear (year : Nat) : Bool :=
  (year % 4 == 0 && year % 100 != 0) || year % 400 == 0

def daysIn (year month : Nat) : Nat :=
  if month = 2 then (if isLeapYear year then 29 else 28)
  else if month = 4 ∨ month = 6 ∨ month = 9 ∨ month = 11 then 30
  else 31

def isDate : List Char → Bool
  | [c, y, d, e, '-', m, n, '-', a, b] =>
    match twoDigits? c y, twoDigits? d e, twoDigits? m n with
    | some century, some year, some month =>
      decide (1 ≤ month) && decide (month ≤ 12) &&
        spellsWithin 1 (daysIn (century * 100 + year) month) a b
    | _, _, _ => false
  | _ => false

/-- Whether a text is nothing, or a point and digits. -/
def isSecondFraction : List Char → Bool
  | [] => true
  | '.' :: rest => !rest.isEmpty && rest.all Char.isDigit
  | _ => false

/-- Whether a text is nothing, or the seconds of a time of day. -/
def isSeconds : List Char → Bool
  | [] => true
  | ':' :: s :: t :: rest => spellsWithin 0 60 s t && isSecondFraction rest
  | _ => false

def isTime : List Char → Bool
  | h :: k :: ':' :: m :: n :: rest =>
    spellsWithin 0 23 h k && spellsWithin 0 59 m n && isSeconds rest
  | _ => false

/-- Whether a text is nothing, or a zone: a letter, or a distance in hours and minutes. -/
def isZone : List Char → Bool
  | [] => true
  | [c] => c == 'Z' || c == 'z'
  | [sign, h, k, ':', m, n] =>
    (sign == '+' || sign == '-') && spellsWithin 0 23 h k && spellsWithin 0 59 m n
  | _ => false

def startsZone (c : Char) : Bool :=
  c == 'Z' || c == 'z' || c == '+' || c == '-'

def isDateEnd (c : Char) : Bool :=
  c == 'T' || c == 't' || c == ' '

def dateLength : Nat := 10

/-- Whether a text is a date, a time of day, or both. -/
def isDatetime (text : List Char) : Bool :=
  isTime text ||
    (isDate (text.take dateLength) &&
      match text.drop dateLength with
      | [] => true
      | separator :: rest =>
        isDateEnd separator && isTime (rest.takeWhile (!startsZone ·)) &&
          isZone (rest.dropWhile (!startsZone ·)))

end SearchQuery.Toml
