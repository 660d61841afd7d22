import SearchQuery.Toml.Basic
import SearchQuery.Toml.Datetime
import SearchQuery.Toml.Number
import SearchQuery.Toml.Text

/-!
# Reading TOML

A document is read line by line into its statements, and these are put together to a table. Arrays
and inline tables may go over several lines; a comma may follow their last part. How deep they are
nested, and how many names a key has, is limited.
-/

set_option autoImplicit false

namespace SearchQuery.Toml

def skipSpace (text : List Char) : List Char :=
  text.dropWhile isSpace

def skipComment : List Char → List Char
  | '#' :: rest => rest.dropWhile isPrintable
  | text => text

/-- Reads the rest of a line on which nothing but a comment is left. -/
def endLine? (text : List Char) : Option (List Char) :=
  match skipComment (skipSpace text) with
  | [] => some []
  | rest => dropBreak? rest

/-- Drops blanks, comments and line breaks between the parts of a value. The first argument bounds
the number of lines. -/
def skipGap : Nat → List Char → List Char
  | 0, text => text
  | steps + 1, text =>
    let rest := skipComment (skipSpace text)
    match dropBreak? rest with
    | some next => skipGap steps next
    | none => rest

def isNameChar (c : Char) : Bool :=
  c.isAlphanum || c == '_' || c == '-'

def readName? : List Char → Option (String × List Char)
  | '"' :: rest =>
    (readBasic? (rest.length + 1) rest).map fun (name, unread) => (String.ofList name, unread)
  | '\'' :: rest =>
    (readLiteral? rest).map fun (name, unread) => (String.ofList name, unread)
  | text =>
    match text.takeWhile isNameChar with
    | [] => none
    | name => some (String.ofList name, text.dropWhile isNameChar)

/-- How many names a key may have. -/
def greatestKeyLength : Nat := 80

/-- Reads a key of at most the given number of names, and the blanks after it. -/
def readKey? : Nat → List Char → Option (Key × List Char)
  | 0, _ => none
  | count + 1, text =>
    match readName? text with
    | none => none
    | some (name, afterName) =>
      match skipSpace afterName with
      | '.' :: rest =>
        (readKey? count (skipSpace rest)).map fun (key, unread) =>
          (⟨name :: key.through, key.name⟩, unread)
      | unread => some (⟨[], name⟩, unread)

def readAssignedKey? (text : List Char) : Option (Key × List Char) :=
  match readKey? greatestKeyLength text with
  | some (key, '=' :: rest) => some (key, skipSpace rest)
  | _ => none

/-- Reads a key of an inline table and the equals sign after it. Blanks, comments and line breaks
may stand around that. -/
def readEntryKey? (text : List Char) : Option (Key × List Char) :=
  match readKey? greatestKeyLength text with
  | none => none
  | some (key, afterKey) =>
    match skipGap (afterKey.length + 1) afterKey with
    | '=' :: rest => some (key, skipGap (rest.length + 1) rest)
    | _ => none

/-- The value that a text without quotes and brackets spells, or is laid out as. -/
def scalar? (text : List Char) : Option Value :=
  if text = ['t', 'r', 'u', 'e'] then some (.boolean true)
  else if text = ['f', 'a', 'l', 's', 'e'] then some (.boolean false)
  else match integer? text with
    | some value => some (.integer value)
    | none =>
      match float? text with
      | some inRange => some (.float inRange)
      | none =>
        if isDatetime text then some .datetime
        else if hasIntegerLayout text then some .malformed
        else none

/-- Whether a character may stand in a value without quotes and brackets, but not at its start: all
but blanks, line breaks and the marks between values. -/
def isScalarChar (c : Char) : Bool :=
  ['=', ',', '[', ']', '\x7b', '\x7d', ' ', '\t', '#', '\r', '\n'].all (c != ·)

/-- Takes the characters of a value without quotes and brackets. Only between a date and a time of
day there may be a space. -/
def takeScalar (text : List Char) : List Char × List Char :=
  let word := text.takeWhile isScalarChar
  match text.dropWhile isScalarChar with
  | ' ' :: c :: rest =>
    if isDate word && c.isDigit then
      (word ++ ' ' :: (c :: rest).takeWhile isScalarChar, (c :: rest).dropWhile isScalarChar)
    else (word, ' ' :: c :: rest)
  | rest => (word, rest)

def readScalar? (text : List Char) : Option (Value × List Char) :=
  let (word, unread) := takeScalar text
  (scalar? word).map fun value => (value, unread)

/-- How deep arrays and inline tables may be nested. -/
def greatestDepth : Nat := 80

mutual

/-- Reads a value. The first argument bounds the number of steps, the second one says how many
brackets may be opened. -/
def readValue? : Nat → Nat → List Char → Option (Value × List Char)
  | 0, _, _ => none
  | steps + 1, depth, text =>
    match text with
    | '[' :: rest =>
      match depth with
      | 0 => none
      | depth + 1 =>
        (readItems? steps depth rest).map fun (items, unread) => (.array items, unread)
    | '\x7b' :: rest =>
      match depth with
      | 0 => none
      | depth + 1 =>
        (readEntries? steps depth ⟨.inline, []⟩ rest).map fun (table, unread) =>
          (.table table, unread)
    | '"' :: _ | '\'' :: _ =>
      (readString? text).map fun (string, unread) => (.string (String.ofList string), unread)
    | _ => readScalar? text

def readItems? : Nat → Nat → List Char → Option (List Value × List Char)
  | 0, _, _ => none
  | steps + 1, depth, text =>
    match skipGap steps text with
    | ']' :: unread => some ([], unread)
    | start =>
      match readValue? steps depth start with
      | none => none
      | some (item, afterItem) =>
        match skipGap steps afterItem with
        | ',' :: rest =>
          (readItems? steps depth rest).map fun (items, unread) => (item :: items, unread)
        | ']' :: unread => some ([item], unread)
        | _ => none

def readEntries? : Nat → Nat → Table → List Char → Option (Table × List Char)
  | 0, _, _, _ => none
  | steps + 1, depth, table, text =>
    match skipGap steps text with
    | '\x7d' :: unread => some (table, unread)
    | start =>
      match readEntryKey? start with
      | none => none
      | some (key, afterKey) =>
        match readValue? steps depth afterKey with
        | none => none
        | some (value, afterValue) =>
          match table.assign? key value with
          | none => none
          | some table =>
            match skipGap steps afterValue with
            | ',' :: rest => readEntries? steps depth table rest
            | '\x7d' :: unread => some (table, unread)
            | _ => none

end

/-- Reads a statement. The first argument bounds the number of steps. -/
def readStatement? (steps : Nat) : List Char → Option (Statement × List Char)
  | '[' :: '[' :: rest =>
    match readKey? greatestKeyLength (skipSpace rest) with
    | some (key, ']' :: ']' :: unread) => some (.element key, unread)
    | _ => none
  | '[' :: rest =>
    match readKey? greatestKeyLength (skipSpace rest) with
    | some (key, ']' :: unread) => some (.header key, unread)
    | _ => none
  | text =>
    match readAssignedKey? text with
    | none => none
    | some (key, afterKey) =>
      (readValue? steps greatestDepth afterKey).map fun (value, unread) =>
        (.assign key value, unread)

def readStatements? : Nat → List Char → Option (List Statement)
  | _, [] => some []
  | 0, _ => none
  | steps + 1, text =>
    match endLine? text with
    | some next => readStatements? steps next
    | none =>
      match readStatement? (text.length + 1) (skipSpace text) with
      | none => none
      | some (statement, rest) =>
        match endLine? rest with
        | none => none
        | some next => (readStatements? steps next).map (statement :: ·)

def skipMark : List Char → List Char
  | '\uFEFF' :: rest => rest
  | text => text

def read? (text : List Char) : Option Table :=
  (readStatements? (text.length + 1) (skipMark text)).bind Document.assemble?

end SearchQuery.Toml
