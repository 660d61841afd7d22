import SearchQuery.Terminal.Span
import SearchQuery.Text.Blank
import SearchQuery.Toml.Reader
import SearchQuery.Toml.Writer

/-!
# The grammar of TOML

TOML as it is coloured: keys, strings with their escapes, numbers and fixed words, and comments. The
names in headers are plain. A string between three quotes ends at the first three quotes that follow,
and whatever stands behind a value on its line is illegal.
-/

set_option autoImplicit false

namespace SearchQuery.Toml.StringForm

def marks : StringForm → List Char
  | basic => ['"']
  | literal => ['\'']
  | longBasic => ['"', '"', '"']
  | longLiteral => ['\'', '\'', '\'']

def hasEscapes : StringForm → Bool
  | basic | longBasic => true
  | literal | longLiteral => false

def opening? (text : List Char) : Option StringForm :=
  [longBasic, longLiteral, basic, literal].find? fun form => form.marks.isPrefixOf text

end SearchQuery.Toml.StringForm

namespace SearchQuery.Terminal.Toml

open SearchQuery.Toml (StringForm isNameChar takeScalar scalar?)

/-- What a text is inside of, or what has been seen before it. -/
inductive Context where
  | header
  | key
  /-- The equals sign behind a key. -/
  | assigned
  /-- A value or a header, with nothing to follow on its line. -/
  | complete
  | array
  | table
  | string (form : StringForm)
  | comment
  deriving DecidableEq, Repr

/-- What a text is inside of, the innermost first. At the start of a statement this is nothing. -/
abbrev State := List Context

abbrev First := FirstSpan State

def atLineStart : State → State
  | [.key] => []
  | [.assigned] => []
  | [.complete] => []
  | .header :: _ => []
  | state => state

def afterValue : State → State
  | .assigned :: outer => .complete :: outer
  | state => state

def takesKey (state : State) : Bool :=
  state.isEmpty || state.head? == some .table

def takesValue (state : State) : Bool :=
  state.head? == some .assigned || state.head? == some .array

/-- The number of characters of the escape at the start of a text, and whether it is known; none if
there is no escape. -/
def escapeLength : List Char → Nat × Bool
  | '\\' :: '\n' :: _ => (1, true)
  | '\\' :: c :: rest =>
    let digits := if c = 'u' then 4 else if c = 'U' then 8 else 0
    if digits ≠ 0 then
      if (rest.take digits).length = digits ∧
          (rest.take digits).all fun c => (Text.hexValue? c).isSome then
        (2 + digits, true)
      else (2, false)
    else (2, ['b', 't', 'n', 'f', 'r', '"', '\\'].contains c)
  | _ => (0, false)

/-- Whether the body of a string ends here: at an escape, at the closing quotes, or at a line break
unless the string may go over it. -/
def endsBody (form : StringForm) (text : List Char) : Bool :=
  form.marks.isPrefixOf text || (form.hasEscapes && (escapeLength text).1 != 0) ||
    (form.marks.length == 1 && text.head? == some '\n')

def bodyLength (form : StringForm) : List Char → Nat
  | [] => 0
  | c :: rest => if endsBody form (c :: rest) then 0 else 1 + bodyLength form rest

/-- The first span inside of a string. A string on one line ends with it, closed or not. -/
def stringSpan (form : StringForm) (outer : State) (text : List Char) : First :=
  if form.marks.isPrefixOf text then ⟨.text, form.marks.length, outer⟩
  else if form.marks.length = 1 ∧ text.head? = some '\n' then ⟨.illegal, 1, outer⟩
  else match if form.hasEscapes then escapeLength text else (0, false) with
    | (0, _) => ⟨.text, bodyLength form text, .string form :: outer⟩
    | (length, true) => ⟨.escape, length, .string form :: outer⟩
    | (length, false) => ⟨.illegal, length, .string form :: outer⟩

/-- The number of characters of a mark of the grammar, and what the text after it is inside of, if a
mark stands here and is not out of place. -/
def mark? (state : State) (text : List Char) : Option (Nat × State) :=
  match state, text with
  | [], '[' :: '[' :: _ => some (2, [.header])
  | [], '[' :: _ => some (1, [.header])
  | .header :: _, ']' :: ']' :: _ => some (2, [.complete])
  | .header :: _, ']' :: _ => some (1, [.complete])
  | .header :: _, '.' :: _ => some (1, state)
  | .key :: outer, '.' :: _ => some (1, outer)
  | .key :: outer, '=' :: _ => some (1, .assigned :: outer)
  | .array :: outer, ']' :: _ => some (1, outer)
  | .array :: _, ',' :: _ => some (1, state)
  | .table :: outer, '}' :: _ => some (1, outer)
  | .complete :: .table :: outer, ',' :: _ => some (1, .table :: outer)
  | .complete :: .table :: outer, '}' :: _ => some (1, outer)
  | _, '[' :: _ => if takesValue state then some (1, .array :: afterValue state) else none
  | _, '{' :: _ => if takesValue state then some (1, .table :: afterValue state) else none
  | _, _ => none

def openingSpan (state : State) (form : StringForm) : First :=
  let outer := if takesKey state then .key :: state else afterValue state
  ⟨.text, form.marks.length, .string form :: outer⟩

def wordSpan (state : State) (text : List Char) : First :=
  let name := runLength isNameChar text
  let word := (takeScalar text).1
  if takesKey state && name != 0 then ⟨.key, name, .key :: state⟩
  else if state.head? == some .header && name != 0 then ⟨.plain, name, state⟩
  else if takesValue state && (scalar? word).isSome then ⟨.constant, word.length, afterValue state⟩
  else ⟨.illegal, runLength (fun c => !Text.isBlank c && c != '#') text, state⟩

def codeSpan (state : State) (text : List Char) : First :=
  if text.head? = some '#' then ⟨.comment, 1, .comment :: state⟩
  else if text.head?.any Text.isBlank then
    ⟨.plain, runLength Text.isBlank text, state⟩
  else match mark? state text with
    | some (length, next) => ⟨.plain, length, next⟩
    | none =>
      match if state.head? == some .complete then none else StringForm.opening? text with
      | some form => openingSpan state form
      | none => wordSpan state text

def firstSpan (state : State) (text : List Char) : First :=
  match state with
  | .string form :: outer => stringSpan form outer text
  | .comment :: outer =>
    if text.head? = some '\n' then codeSpan outer text
    else ⟨.comment, runLength (· != '\n') text, outer⟩
  | _ => codeSpan state text

end SearchQuery.Terminal.Toml

namespace SearchQuery.Terminal

def toml : Grammar where
  State := Toml.State
  start := []
  first := fun state text =>
    let span := Toml.firstSpan state text
    let endsLine := (text.take span.length).getLast? == some '\n'
    { span with next := if endsLine then Toml.atLineStart span.next else span.next }

end SearchQuery.Terminal
