import SearchQuery.Json.Basic
import SearchQuery.Json.Escape

/-!
# Writing JSON

A JSON value is written on one line without any blanks, or with every item and member on a line of
its own, two blanks further in than the line its bracket stands on. Empty arrays and objects stay on
one line in either form.
-/

set_option autoImplicit false

namespace SearchQuery.Json

/-- How a value is laid out: on one line, or over several lines from a given depth on. -/
inductive Layout where
  | compact
  | indented (depth : Nat)
  deriving DecidableEq, Repr

namespace Layout

def deeper : Layout → Layout
  | compact => compact
  | indented depth => indented (depth + 1)

/-- What stands in front of an item, or of a closing bracket. -/
def lineBreak : Layout → List Char
  | compact => []
  | indented depth => '\n' :: List.replicate (2 * depth) ' '

def colon : Layout → List Char
  | compact => [':']
  | indented _ => [':', ' ']

end Layout

def quotedChars (text : String) : List Char :=
  '"' :: escape text.toList ++ ['"']

mutual

def chars (layout : Layout) : Json String → List Char
  | null => ['n', 'u', 'l', 'l']
  | bool true => ['t', 'r', 'u', 'e']
  | bool false => ['f', 'a', 'l', 's', 'e']
  | number value => value.chars
  | string value => quotedChars value
  | array [] => ['[', ']']
  | array (item :: rest) =>
    '[' :: (layout.deeper.lineBreak ++ chars layout.deeper item ++ itemsChars layout rest)
  | object [] => ['{', '}']
  | object ((key, value) :: rest) =>
    '{' :: (layout.deeper.lineBreak ++ quotedChars key ++ layout.colon ++
      chars layout.deeper value ++ membersChars layout rest)

/-- The written form of the further items of an array, with the bracket that closes it. -/
def itemsChars (layout : Layout) : List (Json String) → List Char
  | [] => layout.lineBreak ++ [']']
  | item :: rest =>
    ',' :: (layout.deeper.lineBreak ++ chars layout.deeper item ++ itemsChars layout rest)

def membersChars (layout : Layout) : List (String × Json String) → List Char
  | [] => layout.lineBreak ++ ['}']
  | (key, value) :: rest =>
    ',' :: (layout.deeper.lineBreak ++ quotedChars key ++ layout.colon ++
      chars layout.deeper value ++ membersChars layout rest)

end

def compact (value : Json String) : String :=
  String.ofList (chars .compact value)

def pretty (value : Json String) : String :=
  String.ofList (chars (.indented 0) value)

end SearchQuery.Json
