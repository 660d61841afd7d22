import SearchQuery.Text.Hex

/-!
# Strings in TOML

A string stands between double quotes, where a backslash starts an escape, or between single quotes,
where every character stands for itself. Between three quotes of either kind it may go over several
lines; the first line break is dropped if it comes at once, and up to two quotes may stand before
the closing ones. Control characters other than the tab are not allowed anywhere.
-/

set_option autoImplicit false

namespace SearchQuery.Toml

def isSpace (c : Char) : Bool :=
  c == ' ' || c == '\t'

def isPrintable (c : Char) : Bool :=
  c == '\t' || (decide (0x20 ≤ c.toNat) && c != '\x7f')

/-- The character with the code point that hexadecimal digits spell, and the text after them. -/
def readCode? (count : Nat) (text : List Char) : Option (Char × List Char) :=
  if text.length < count then none
  else match Text.hexNumber? 0 (text.take count) with
    | some code =>
      if code.isValidChar then some (Char.ofNat code, text.drop count) else none
    | none => none

def readEscape? : List Char → Option (Char × List Char)
  | 'b' :: rest => some ('\x08', rest)
  | 't' :: rest => some ('\t', rest)
  | 'n' :: rest => some ('\n', rest)
  | 'f' :: rest => some ('\x0c', rest)
  | 'r' :: rest => some ('\r', rest)
  | 'e' :: rest => some ('\x1b', rest)
  | '"' :: rest => some ('"', rest)
  | '\\' :: rest => some ('\\', rest)
  | 'x' :: rest => readCode? 2 rest
  | 'u' :: rest => readCode? 4 rest
  | 'U' :: rest => readCode? 8 rest
  | _ => none

def consRead (c : Char) (read : List Char × List Char) : List Char × List Char :=
  (c :: read.1, read.2)

/-- Reads a string up to its closing double quote. The opening quote has been read; the first
argument bounds the number of steps. -/
def readBasic? : Nat → List Char → Option (List Char × List Char)
  | 0, _ => none
  | _ + 1, [] => none
  | _ + 1, '"' :: rest => some ([], rest)
  | steps + 1, '\\' :: rest =>
    match readEscape? rest with
    | some (c, rest) => (readBasic? steps rest).map (consRead c)
    | none => none
  | steps + 1, c :: rest =>
    if isPrintable c then (readBasic? steps rest).map (consRead c) else none

def dropBlanks : List Char → List Char
  | ' ' :: rest => dropBlanks rest
  | '\t' :: rest => dropBlanks rest
  | '\n' :: rest => dropBlanks rest
  | '\r' :: '\n' :: rest => dropBlanks rest
  | text => text

def dropBreak? : List Char → Option (List Char)
  | '\n' :: rest => some rest
  | '\r' :: '\n' :: rest => some rest
  | _ => none

/-- What follows a backslash at the end of a line: the text from the next character on that is no
blank. -/
def foldedLine? (text : List Char) : Option (List Char) :=
  (dropBreak? (text.dropWhile isSpace)).map dropBlanks

/-- Reads a string up to its three closing double quotes. The opening quotes have been read; the
first argument bounds the number of steps. -/
def readLongBasic? : Nat → List Char → Option (List Char × List Char)
  | 0, _ => none
  | _ + 1, [] => none
  | _ + 1, '"' :: '"' :: '"' :: '"' :: '"' :: rest => some (['"', '"'], rest)
  | _ + 1, '"' :: '"' :: '"' :: '"' :: rest => some (['"'], rest)
  | _ + 1, '"' :: '"' :: '"' :: rest => some ([], rest)
  | steps + 1, '\r' :: '\n' :: rest =>
    (readLongBasic? steps rest).map fun read => consRead '\r' (consRead '\n' read)
  | steps + 1, '\\' :: rest =>
    match foldedLine? rest with
    | some rest => readLongBasic? steps rest
    | none =>
      match readEscape? rest with
      | some (c, rest) => (readLongBasic? steps rest).map (consRead c)
      | none => none
  | steps + 1, c :: rest =>
    if isPrintable c || c == '\n' then (readLongBasic? steps rest).map (consRead c) else none

def readLiteral? : List Char → Option (List Char × List Char)
  | [] => none
  | '\'' :: rest => some ([], rest)
  | c :: rest => if isPrintable c then (readLiteral? rest).map (consRead c) else none

def readLongLiteral? : List Char → Option (List Char × List Char)
  | [] => none
  | '\'' :: '\'' :: '\'' :: '\'' :: '\'' :: rest => some (['\'', '\''], rest)
  | '\'' :: '\'' :: '\'' :: '\'' :: rest => some (['\''], rest)
  | '\'' :: '\'' :: '\'' :: rest => some ([], rest)
  | '\r' :: '\n' :: rest =>
    (readLongLiteral? rest).map fun read => consRead '\r' (consRead '\n' read)
  | c :: rest =>
    if isPrintable c || c == '\n' then (readLongLiteral? rest).map (consRead c) else none

def dropFirstBreak (text : List Char) : List Char :=
  (dropBreak? text).getD text

def readString? : List Char → Option (List Char × List Char)
  | '"' :: '"' :: '"' :: rest => readLongBasic? (rest.length + 1) (dropFirstBreak rest)
  | '"' :: rest => readBasic? (rest.length + 1) rest
  | '\'' :: '\'' :: '\'' :: rest => readLongLiteral? (dropFirstBreak rest)
  | '\'' :: rest => readLiteral? rest
  | _ => none

end SearchQuery.Toml
