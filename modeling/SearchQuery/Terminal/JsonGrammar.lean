import SearchQuery.Terminal.Span
import SearchQuery.Text.AlphanumericTable
import SearchQuery.Text.Blank
import SearchQuery.Text.Hex

/-!
# The grammar of JSON

JSON as it is coloured: strings with their escapes, numbers and fixed words, and comments. A number
with a point gives three spans. Inside of arrays and objects, what is out of place is illegal,
character by character; outside of them it is plain text.
-/

set_option autoImplicit false

namespace SearchQuery.Terminal.Json

/-- What a text is inside of. -/
inductive Context where
  | array
  /-- An object, where a key or a colon is expected. -/
  | object
  /-- The value of a member of an object, from the colon to the comma. -/
  | member
  | string
  | point
  | fraction
  | lineComment
  | blockComment
  deriving DecidableEq, Repr

/-- What has been seen before a text. -/
structure State where
  /-- What the text is inside of, the innermost first. -/
  nesting : List Context := []
  /-- Whether a character of a word stands directly before the text. -/
  afterWord : Bool := false
  deriving DecidableEq, Repr

abbrev First := FirstSpan (List Context)

def isWordChar (c : Char) : Bool :=
  Text.isAlphanumeric c || c == '_'

def digitsLength (text : List Char) : Nat :=
  runLength Char.isDigit text

/-- The number of characters of the integer at the start of a text; none if there is no integer. -/
def integerLength : List Char → Nat
  | '-' :: '0' :: _ => 2
  | '-' :: rest => if digitsLength rest = 0 then 0 else digitsLength rest + 1
  | '0' :: _ => 1
  | text => digitsLength text

def fractionLength : List Char → Nat
  | '.' :: rest => if digitsLength rest = 0 then 0 else digitsLength rest + 1
  | _ => 0

def exponentLength : List Char → Nat
  | [] => 0
  | c :: rest =>
    let signLength := match rest with
      | '+' :: _ => 1
      | '-' :: _ => 1
      | _ => 0
    let digits := digitsLength (rest.drop signLength)
    if (c = 'e' ∨ c = 'E') ∧ digits ≠ 0 then 1 + signLength + digits else 0

def words : List (List Char) :=
  [['t', 'r', 'u', 'e'], ['f', 'a', 'l', 's', 'e'], ['n', 'u', 'l', 'l']]

/-- The number of characters of the fixed word at the start of a text; none if there is no such word
or if it is a part of a longer one. -/
def wordLength (afterWord : Bool) (text : List Char) : Nat :=
  match words.find? fun word => word.isPrefixOf text with
  | some word =>
    if afterWord || (text.drop word.length).head?.any isWordChar then 0 else word.length
  | none => 0

/-- The first span of a text that starts with a number: all of it, or what stands before its
point. -/
def numberSpan (nesting : List Context) (text : List Char) : First :=
  let integer := integerLength text
  let rest := text.drop integer
  if fractionLength rest = 0 then ⟨.constant, integer + exponentLength rest, nesting⟩
  else ⟨.constant, integer, .point :: nesting⟩

/-- The number of characters of the escape at the start of a text, and whether it is known; none if
there is no escape. -/
def escapeLength : List Char → Nat × Bool
  | '\\' :: 'u' :: rest =>
    if (rest.take 4).length = 4 ∧ (rest.take 4).all fun c => (Text.hexValue? c).isSome then
      (6, true)
    else (2, false)
  | '\\' :: c :: _ =>
    if c = '\n' then (0, false)
    else (2, ['"', '\\', '/', 'b', 'f', 'n', 'r', 't'].contains c)
  | _ => (0, false)

/-- The number of characters of a string up to an escape, its closing quote, or the end of the
line. -/
def bodyLength : List Char → Nat
  | [] => 0
  | c :: rest =>
    if c = '"' ∨ c = '\n' ∨ (escapeLength (c :: rest)).1 ≠ 0 then 0 else 1 + bodyLength rest

/-- The first span inside of a string. A string that is not closed ends with the line. -/
def stringSpan (outer : List Context) (text : List Char) : First :=
  match text with
  | '"' :: _ => ⟨.quote, 1, outer⟩
  | '\n' :: _ => ⟨.illegal, 1, outer⟩
  | _ =>
    match escapeLength text with
    | (0, _) => ⟨.text, bodyLength text, .string :: outer⟩
    | (length, true) => ⟨.escape, length, .string :: outer⟩
    | (length, false) => ⟨.illegal, length, .string :: outer⟩

/-- The number of characters of a comment up to its closing mark, the mark included; none if it is
not closed on the line. -/
def closedLength : List Char → Nat
  | [] => 0
  | '*' :: '/' :: _ => 2
  | _ :: rest => if closedLength rest = 0 then 0 else closedLength rest + 1

def blockSpan (outer : List Context) (text : List Char) : First :=
  match closedLength text with
  | 0 => ⟨.comment, text.length, .blockComment :: outer⟩
  | length => ⟨.comment, length, outer⟩

/-- The number of characters of the mark that opens a comment, and the comment; none if no comment
starts here. -/
def commentMark? : List Char → Option (Nat × Context)
  | '/' :: '/' :: _ => some (2, .lineComment)
  | '/' :: '*' :: '*' :: '/' :: _ => some (2, .blockComment)
  | '/' :: '*' :: '*' :: _ => some (3, .blockComment)
  | '/' :: '*' :: _ => some (2, .blockComment)
  | _ => none

/-- What a text is inside of after a bracket, a comma or a colon, if that is not out of place. -/
def afterMark? : List Context → Char → Option (List Context)
  | .array :: outer, ']' => some outer
  | .array :: outer, ',' => some (.array :: outer)
  | .object :: outer, '}' => some outer
  | .object :: outer, ':' => some (.member :: .object :: outer)
  | .object :: _, _ => none
  | .member :: outer, ',' => some outer
  | nesting, '[' => some (.array :: nesting)
  | nesting, '{' => some (.object :: nesting)
  | _, _ => none

def startsConstant (afterWord : Bool) (text : List Char) : Bool :=
  wordLength afterWord text != 0 || integerLength text != 0

def startsSpan (afterWord : Bool) (text : List Char) : Bool :=
  (commentMark? text).isSome || startsConstant afterWord text ||
    text.head?.any fun c => c == '"' || (afterMark? [] c).isSome

def plainLength (afterWord : Bool) : List Char → Nat
  | [] => 0
  | c :: rest =>
    if startsSpan afterWord (c :: rest) then 0 else 1 + plainLength (isWordChar c) rest

/-- What a text is inside of at a closing brace, which ends the value of a member, too. -/
def settled (nesting : List Context) (text : List Char) : List Context :=
  match nesting, text with
  | .member :: outer, '}' :: _ => outer
  | _, _ => nesting

/-- The first span of a text that starts with a blank inside of brackets. The last blank before the
brace that closes an object counts as the end of the value. -/
def gapSpan (nesting : List Context) (text : List Char) : First :=
  let length := runLength Text.isBlank text
  match nesting, text.drop length with
  | .member :: outer, '}' :: _ =>
    if length = 1 then ⟨.plain, 1, outer⟩ else ⟨.plain, length - 1, nesting⟩
  | _, _ => ⟨.plain, length, nesting⟩

/-- The first span of a text outside of strings, numbers and comments, where no comment and no mark
starts. -/
def valueSpan (nesting : List Context) (afterWord : Bool) (text : List Char) : First :=
  if text.head? = some '"' then ⟨.quote, 1, .string :: nesting⟩
  else if nesting = [] ∧ !startsConstant afterWord text then
    ⟨.plain, plainLength afterWord text, nesting⟩
  else if text.head?.any Text.isBlank then gapSpan nesting text
  else if nesting.head? = some .object ∨ !startsConstant afterWord text then
    ⟨.illegal, 1, nesting⟩
  else match wordLength afterWord text with
    | 0 => numberSpan nesting text
    | length => ⟨.constant, length, nesting⟩

/-- The first span of a text outside of strings, numbers and comments. -/
def codeSpan (nesting : List Context) (afterWord : Bool) (text : List Char) : First :=
  match commentMark? text with
  | some (length, comment) => ⟨.comment, length, comment :: nesting⟩
  | none =>
    match text.head?.bind (afterMark? (settled nesting text)) with
    | some next => ⟨.plain, 1, next⟩
    | none => valueSpan nesting afterWord text

def firstSpan (state : State) (text : List Char) : First :=
  match state.nesting with
  | .string :: outer => stringSpan outer text
  | .point :: outer => ⟨.constant, 1, .fraction :: outer⟩
  | .fraction :: outer =>
    let length := digitsLength text
    ⟨.constant, length + exponentLength (text.drop length), outer⟩
  | .lineComment :: outer => ⟨.comment, text.length, outer⟩
  | .blockComment :: outer => blockSpan outer text
  | nesting => codeSpan nesting state.afterWord text

end SearchQuery.Terminal.Json

namespace SearchQuery.Terminal

def json : Grammar where
  State := Json.State
  start := {}
  first := fun state text =>
    let span := Json.firstSpan state text
    { span with
      next := {
        nesting := span.next
        afterWord := (text.take span.length).getLast?.any Json.isWordChar } }

end SearchQuery.Terminal
