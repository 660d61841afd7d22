import SearchQuery.Json.Basic
import SearchQuery.Json.Escape

/-!
# Reading JSON

`read?` takes a text apart by the JSON grammar. It sets no limit on nesting or on the size of
numbers, and it leaves strings as they are written; `value?` resolves them as well.
-/

set_option autoImplicit false

namespace SearchQuery.Json

/-- What is written between two quotes. -/
abbrev Source := List Char

def sourceText? (source : Source) : Option String :=
  (unescape? source).map String.ofList

def isSpace (c : Char) : Bool :=
  c == ' ' || c == '\n' || c == '\t' || c == '\r'

def skipSpace (text : List Char) : List Char :=
  text.dropWhile isSpace

/-- Reads a key and the colon after it, and gives the text from the value on. -/
def readKey? : List Char → Option (Source × List Char)
  | '"' :: rest =>
    match readSource? rest with
    | none => none
    | some (key, afterKey) =>
      match skipSpace afterKey with
      | ':' :: unread => some (key, skipSpace unread)
      | _ => none
  | _ => none

mutual

/-- Reads the value at the start of a text, and gives the text after it. The first argument bounds
the number of steps. -/
def readValue? : Nat → List Char → Option (Json Source × List Char)
  | 0, _ => none
  | steps + 1, text =>
    match text with
    | 'n' :: 'u' :: 'l' :: 'l' :: rest => some (null, rest)
    | 't' :: 'r' :: 'u' :: 'e' :: rest => some (bool true, rest)
    | 'f' :: 'a' :: 'l' :: 's' :: 'e' :: rest => some (bool false, rest)
    | '"' :: rest => (readSource? rest).map fun (source, unread) => (string source, unread)
    | '[' :: rest =>
      match skipSpace rest with
      | ']' :: unread => some (array [], unread)
      | start =>
        match readValue? steps start with
        | none => none
        | some (item, afterItem) =>
          (readItems? steps afterItem).map fun (items, unread) => (array (item :: items), unread)
    | '{' :: rest =>
      match skipSpace rest with
      | '}' :: unread => some (object [], unread)
      | start =>
        match readKey? start with
        | none => none
        | some (key, afterKey) =>
          match readValue? steps afterKey with
          | none => none
          | some (value, afterValue) =>
            (readMembers? steps afterValue).map fun (members, unread) =>
              (object ((key, value) :: members), unread)
    | text => (Numeral.read? text).map fun (numeral, unread) => (number numeral, unread)

def readItems? : Nat → List Char → Option (List (Json Source) × List Char)
  | 0, _ => none
  | steps + 1, text =>
    match skipSpace text with
    | ']' :: unread => some ([], unread)
    | ',' :: rest =>
      match readValue? steps (skipSpace rest) with
      | none => none
      | some (item, afterItem) =>
        (readItems? steps afterItem).map fun (items, unread) => (item :: items, unread)
    | _ => none

def readMembers? : Nat → List Char → Option (List (Source × Json Source) × List Char)
  | 0, _ => none
  | steps + 1, text =>
    match skipSpace text with
    | '}' :: unread => some ([], unread)
    | ',' :: rest =>
      match readKey? (skipSpace rest) with
      | none => none
      | some (key, afterKey) =>
        match readValue? steps afterKey with
        | none => none
        | some (value, afterValue) =>
          (readMembers? steps afterValue).map fun (members, unread) =>
            ((key, value) :: members, unread)
    | _ => none

end

/-- Takes a text apart that is one JSON value, with blanks around it or not. -/
def read? (text : List Char) : Option (Json Source) :=
  match readValue? (text.length + 1) (skipSpace text) with
  | some (value, unread) => if (skipSpace unread).isEmpty then some value else none
  | none => none

def value? (text : List Char) : Option (Json String) :=
  (read? text).bind (mapTexts? sourceText?)

end SearchQuery.Json
