import SearchQuery.Text.Hex

/-!
# Strings as they are written in JSON

Between its quotes, a string spells quotes, backslashes and control characters by escapes. `escape`
writes the shortest escape there is; `unescape?` resolves every escape of the grammar. Two escapes
by code unit that form a surrogate pair stand for one character; a surrogate alone stands for none,
and a string that holds one has no text.
-/

set_option autoImplicit false

namespace SearchQuery.Json

open SearchQuery.Text (hexDigit hexValue?)

/-- The code unit that four hexadecimal digits spell. -/
def codeUnit? (a b c d : Char) : Option Nat :=
  match hexValue? a, hexValue? b, hexValue? c, hexValue? d with
  | some a, some b, some c, some d => some (((a * 16 + b) * 16 + c) * 16 + d)
  | _, _, _, _ => none

/-- The character that stands behind a backslash for a control character, a quote, a backslash or a
slash. -/
def shortEscape? : Char → Option Char
  | '"' => some '"'
  | '\\' => some '\\'
  | '/' => some '/'
  | 'b' => some '\x08'
  | 'f' => some '\x0c'
  | 'n' => some '\n'
  | 'r' => some '\r'
  | 't' => some '\t'
  | _ => none

def escapeChar (c : Char) : List Char :=
  if c = '"' then ['\\', '"']
  else if c = '\\' then ['\\', '\\']
  else if c = '\x08' then ['\\', 'b']
  else if c = '\x0c' then ['\\', 'f']
  else if c = '\n' then ['\\', 'n']
  else if c = '\r' then ['\\', 'r']
  else if c = '\t' then ['\\', 't']
  else if c.toNat < 0x20 then
    ['\\', 'u', '0', '0', hexDigit (c.toNat / 16), hexDigit (c.toNat % 16)]
  else [c]

def escape (text : List Char) : List Char :=
  text.flatMap escapeChar

/-- Reads what is written up to the closing quote, and gives the text after that quote. The opening
quote has been read. Fails at a control character and at anything after a backslash that is no
escape. -/
def readSource? : List Char → Option (List Char × List Char)
  | [] => none
  | '"' :: rest => some ([], rest)
  | '\\' :: 'u' :: a :: b :: c :: d :: rest =>
    match codeUnit? a b c d, readSource? rest with
    | some _, some (source, unread) =>
      some ('\\' :: 'u' :: a :: b :: c :: d :: source, unread)
    | _, _ => none
  | '\\' :: c :: rest =>
    match shortEscape? c, readSource? rest with
    | some _, some (source, unread) => some ('\\' :: c :: source, unread)
    | _, _ => none
  | c :: rest =>
    if c = '\\' ∨ c.toNat < 0x20 then none
    else (readSource? rest).map fun (source, unread) => (c :: source, unread)

def isHighSurrogate (code : Nat) : Bool :=
  decide (0xD800 ≤ code) && decide (code ≤ 0xDBFF)

def isLowSurrogate (code : Nat) : Bool :=
  decide (0xDC00 ≤ code) && decide (code ≤ 0xDFFF)

def pairedChar (high low : Nat) : Char :=
  Char.ofNat (0x10000 + (high - 0xD800) * 0x400 + (low - 0xDC00))

def unescape? : List Char → Option (List Char)
  | [] => some []
  | '\\' :: 'u' :: a :: b :: c :: d :: rest =>
    match codeUnit? a b c d with
    | none => none
    | some code =>
      if isHighSurrogate code then
        match rest with
        | '\\' :: 'u' :: e :: f :: g :: h :: rest =>
          match codeUnit? e f g h with
          | none => none
          | some low =>
            if isLowSurrogate low then (unescape? rest).map (pairedChar code low :: ·) else none
        | _ => none
      else if isLowSurrogate code then none
      else (unescape? rest).map (Char.ofNat code :: ·)
  | '\\' :: c :: rest =>
    match shortEscape? c with
    | none => none
    | some resolved => (unescape? rest).map (resolved :: ·)
  | c :: rest => (unescape? rest).map (c :: ·)

end SearchQuery.Json
