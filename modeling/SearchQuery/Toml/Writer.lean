import SearchQuery.Text.Hex

/-!
# Writing TOML strings

A string is written in the plainest form that can hold it. Between plain double quotes stands what
needs no escape at all; what has a quote or a backslash is put between quotes of another form, as
long as no control character has to be escaped; and double quotes with escapes hold everything.
-/

set_option autoImplicit false

namespace SearchQuery.Toml

inductive StringForm where
  /-- Between double quotes, on one line. -/
  | basic
  /-- Between single quotes, on one line. -/
  | literal
  /-- Between three double quotes. -/
  | longBasic
  /-- Between three single quotes. -/
  | longLiteral
  deriving DecidableEq, Repr

/-- Whether a character can only be written by an escape: a control character that is no tab and no
line feed. -/
def needsEscape (c : Char) : Bool :=
  c != '\t' && c != '\n' && (decide (c.toNat < 0x20) || c == '\x7f')

/-- The length of the longest run of a character, going on from a run. -/
def longestRun (sought : Char) (run : Nat) : List Char → Nat
  | [] => run
  | c :: rest =>
    if c = sought then longestRun sought (run + 1) rest
    else max run (longestRun sought 0 rest)

/-- How many quotes in a row may stand between three quotes of their kind. -/
def quotesInside : Nat := 2

def formOf (text : List Char) : StringForm :=
  let controls := text.any needsEscape
  let plain := !controls && !text.contains '\\'
  let oneLine := !text.contains '\n'
  if plain && oneLine && !text.contains '"' then .basic
  else if !controls && oneLine && !text.contains '\'' then .literal
  else if plain && decide (longestRun '"' 0 text ≤ quotesInside) then .longBasic
  else if !controls && decide (longestRun '\'' 0 text ≤ quotesInside) then .longLiteral
  else if oneLine then .basic
  else .longBasic

/-- A hexadecimal digit, upper case from ten on. -/
def upperHexDigit (n : Nat) : Char :=
  (Text.hexDigit n).toUpper

def escapeChar (multiLine : Bool) (c : Char) : List Char :=
  if c = '\x08' then ['\\', 'b']
  else if c = '\t' then ['\\', 't']
  else if c = '\n' then if multiLine then ['\n'] else ['\\', 'n']
  else if c = '\x0c' then ['\\', 'f']
  else if c = '\r' then ['\\', 'r']
  else if c = '\\' then ['\\', '\\']
  else if needsEscape c then
    ['\\', 'u', '0', '0', upperHexDigit (c.toNat / 16), upperHexDigit (c.toNat % 16)]
  else [c]

/-- A text as it is written between double quotes. At most the given number of quotes in a row are
left as they are; the next one is escaped. The second argument counts the quotes just written. -/
def escape (multiLine : Bool) (allowed : Nat) : Nat → List Char → List Char
  | _, [] => []
  | quotes, c :: rest =>
    if c = '"' then
      if quotes < allowed then '"' :: escape multiLine allowed (quotes + 1) rest
      else '\\' :: '"' :: escape multiLine allowed 0 rest
    else escapeChar multiLine c ++ escape multiLine allowed 0 rest

/-- What stands after three opening quotes: a line break if the text has one. -/
def firstBreak (text : List Char) : List Char :=
  if text.contains '\n' then ['\n'] else []

def quotedAs (form : StringForm) (text : List Char) : List Char :=
  match form with
  | .basic => '"' :: escape false 0 0 text ++ ['"']
  | .literal => '\'' :: text ++ ['\'']
  | .longBasic =>
    ['"', '"', '"'] ++ firstBreak text ++ escape true quotesInside 0 text ++ ['"', '"', '"']
  | .longLiteral => ['\'', '\'', '\''] ++ firstBreak text ++ text ++ ['\'', '\'', '\'']

def writeString (text : String) : String :=
  String.ofList (quotedAs (formOf text.toList) text.toList)

end SearchQuery.Toml
