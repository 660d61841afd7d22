import SearchQuery.Text.Hex

/-!
# Regular expressions

Which texts are regular expressions that can be matched in one pass: groups and character classes
are closed, every repetition has something to repeat, and every escape is known. There are no
references back to groups, no conditions on what surrounds a match, and no word boundaries. Counted
repetitions are not covered: a brace outside of a character class is refused.
-/

set_option autoImplicit false

namespace SearchQuery.Text.Pattern

/-- The letters behind a backslash that stand for a control character, a class of characters or an
end of the text. -/
def escapeLetters : List Char :=
  ['a', 'f', 'n', 'r', 't', 'v', 'd', 'D', 's', 'S', 'w', 'W', 'A', 'z']

def categoryLetters : List Char := ['L', 'M', 'N', 'P', 'S', 'Z', 'C']

/-- Whether a character stands for itself behind a backslash. -/
def isEscapable (c : Char) : Bool :=
  decide (c.toNat < 0x80) && !c.isAlphanum && c != '<' && c != '>'

/-- Passes over the code point of a character, given by its hexadecimal digits. -/
def skipCode? (count : Nat) (text : List Char) : Option (List Char) :=
  if text.length < count then none
  else match hexNumber? 0 (text.take count) with
    | some code => if code.isValidChar then some (text.drop count) else none
    | none => none

def skipEscape? : List Char → Option (List Char)
  | [] => none
  | c :: rest =>
    if c = 'x' then skipCode? 2 rest
    else if c = 'u' then skipCode? 4 rest
    else if c = 'U' then skipCode? 8 rest
    else if c = 'p' ∨ c = 'P' then
      match rest with
      | category :: rest => if categoryLetters.contains category then some rest else none
      | [] => none
    else if escapeLetters.contains c || isEscapable c then some rest
    else none

/-- Passes over what stands at the start of a character class: its negation, hyphens, and a closing
bracket that belongs to it. -/
def skipClassStart (text : List Char) : List Char :=
  let listed := match text with
    | '^' :: rest => rest
    | _ => text
  match listed with
  | ']' :: rest => rest
  | _ => listed.dropWhile (· == '-')

/-- Passes over a character class and the classes in it, whose opening brackets have been read. The
first argument bounds the number of steps, the second one counts the open brackets. -/
def skipClass? : Nat → Nat → List Char → Option (List Char)
  | _, 0, text => some text
  | 0, _, _ => none
  | _, _, [] => none
  | steps + 1, depth + 1, c :: rest =>
    if c = ']' then skipClass? steps depth rest
    else if c = '[' then skipClass? steps (depth + 2) (skipClassStart rest)
    else if c = '\\' then
      match skipEscape? rest with
      | some rest => skipClass? steps (depth + 1) rest
      | none => none
    else skipClass? steps (depth + 1) rest

def isNameChar (c : Char) : Bool :=
  c.isAlphanum || c == '_' || c == '.' || c == '[' || c == ']'

def isOption (c : Char) : Bool :=
  ['i', 'm', 's', 'U', 'u', 'x', 'R', '-'].contains c

def skipName? (text : List Char) : Option (List Char) :=
  match text.takeWhile isNameChar, text.dropWhile isNameChar with
  | first :: _, '>' :: rest => if first.isAlpha || first == '_' then some rest else none
  | _, _ => none

/-- Passes over what makes a group special, after its opening bracket. Says as well whether a group
has been opened: options may stand in brackets of their own. -/
def skipGroupStart? : List Char → Option (Bool × List Char)
  | '?' :: 'P' :: '<' :: rest => (skipName? rest).map (true, ·)
  | '?' :: '<' :: rest => (skipName? rest).map (true, ·)
  | '?' :: rest =>
    match rest.takeWhile isOption, rest.dropWhile isOption with
    | _, ':' :: rest => some (true, rest)
    | _ :: _, ')' :: rest => some (false, rest)
    | _, _ => none
  | text => some (true, text)

/-- Whether the rest of a text completes an expression. The first argument bounds the number of
steps, the second one counts the open groups, and the third one says whether there is something to
repeat. -/
def completes : Nat → Nat → Bool → List Char → Bool
  | _, depth, _, [] => depth == 0
  | 0, _, _, _ => false
  | steps + 1, depth, repeatable, c :: rest =>
    if c = '*' ∨ c = '+' ∨ c = '?' then repeatable && completes steps depth true rest
    else if c = '|' then completes steps depth false rest
    else if c = '(' then
      match skipGroupStart? rest with
      | some (true, rest) => completes steps (depth + 1) false rest
      | some (false, rest) => completes steps depth false rest
      | none => false
    else if c = ')' then depth != 0 && completes steps (depth - 1) true rest
    else if c = '[' then
      match skipClass? rest.length 1 (skipClassStart rest) with
      | some rest => completes steps depth true rest
      | none => false
    else if c = '\\' then
      match skipEscape? rest with
      | some rest => completes steps depth true rest
      | none => false
    else c != '\x7b' && completes steps depth true rest

def isPattern (text : List Char) : Bool :=
  completes text.length 0 false text

end SearchQuery.Text.Pattern
