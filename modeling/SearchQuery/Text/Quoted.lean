import SearchQuery.Text.QuotedTable

/-!
# Quoted diagnostics

A text shown inside a message stands between double quotes, with everything spelled out that would
not be seen or would be mistaken for the quoting: quotes, backslashes, the usual controls by their
letters, and unprintable or combining characters by their code points.
-/

set_option autoImplicit false

namespace SearchQuery.Text

/-- A character spelled by its code point, as in `\u{a0}`. -/
def spellCode (c : Char) : List Char :=
  ['\\', 'u', '{'] ++ Nat.toDigits 16 c.toNat ++ ['}']

def quoteChar (c : Char) : List Char :=
  if c = '\x00' then ['\\', '0']
  else if c = '\t' then ['\\', 't']
  else if c = '\r' then ['\\', 'r']
  else if c = '\n' then ['\\', 'n']
  else if c = '\\' then ['\\', '\\']
  else if c = '"' then ['\\', '"']
  else if 0x20 ≤ c.toNat ∧ c.toNat < 0x7F then [c]
  else if inRanges combiningRanges c || inRanges unprintableRanges c then spellCode c
  else [c]

def quoted (text : String) : String :=
  String.ofList ('"' :: text.toList.flatMap quoteChar ++ ['"'])

end SearchQuery.Text
