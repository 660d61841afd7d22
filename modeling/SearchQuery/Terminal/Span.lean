import SearchQuery.Text.Layout

/-!
# Coloured spans

Text is cut line by line into spans, each of which has a colour. A grammar finds the first span of a
text from the text itself and from what has been seen before it. The lines are cut one by one, so
that no span goes over a line break, but what has been seen is kept from line to line.

`flatMap_text_spans` says that the spans of a text hold the text, whatever the grammar.
-/

set_option autoImplicit false

namespace SearchQuery.Terminal

inductive Colour where
  | plain
  /-- For the quotes of JSON. -/
  | quote
  | text
  | constant
  | key
  | escape
  | comment
  /-- For what the grammar does not allow. -/
  | illegal
  deriving DecidableEq, Repr

namespace Colour

def parts : Colour → String
  | plain => "248;248;242"
  | quote => "238;238;238"
  | text => "241;250;140"
  | constant => "189;147;249"
  | key => "255;121;198"
  | escape => "255;121;198"
  | comment => "98;114;164"
  | illegal => "248;248;240"

def sequence (colour : Colour) : List Char :=
  "\x1b[38;2;".toList ++ colour.parts.toList ++ ['m']

end Colour

structure Span where
  colour : Colour
  text : List Char
  deriving DecidableEq, Repr

namespace Span

def shown (span : Span) : List Char :=
  span.colour.sequence ++ span.text

end Span

/-- The first span of a text: its colour, the number of its characters, of which there is at least
one, and what has been seen after it. -/
structure FirstSpan (State : Type) where
  colour : Colour
  length : Nat
  next : State
  deriving Repr

/-- A grammar: what is known at the start of a text, and how the first span of the rest of a line is
found from what has been seen before it. -/
structure Grammar where
  State : Type
  start : State
  first : State → List Char → FirstSpan State

namespace Grammar

/-- Cuts a line into spans, and says what has been seen after it. The first argument bounds the
number of spans. -/
def cut (grammar : Grammar) :
    Nat → grammar.State → List Char → List Span × grammar.State
  | 0, state, _ => ([], state)
  | _ + 1, state, [] => ([], state)
  | steps + 1, state, c :: rest =>
    let span := grammar.first state (c :: rest)
    let (spans, last) := grammar.cut steps span.next (rest.drop (span.length - 1))
    (⟨span.colour, c :: rest.take (span.length - 1)⟩ :: spans, last)

def cutLine (grammar : Grammar) (state : grammar.State) (line : List Char) :
    List Span × grammar.State :=
  grammar.cut line.length state line

def cutLines (grammar : Grammar) : grammar.State → List (List Char) → List Span
  | _, [] => []
  | state, line :: lines =>
    let (spans, next) := grammar.cutLine state line
    spans ++ grammar.cutLines next lines

def spans (grammar : Grammar) (text : List Char) : List Span :=
  grammar.cutLines grammar.start (Text.linesWithEndings text)

/-- The spans of a line hold the line if there may be enough of them. -/
theorem flatMap_text_cut (grammar : Grammar) (steps : Nat) (state : grammar.State)
    (text : List Char) (enough : text.length ≤ steps) :
    (grammar.cut steps state text).1.flatMap Span.text = text := by
  induction steps generalizing state text with
  | zero =>
    have empty : text = [] := List.length_eq_zero_iff.mp (Nat.le_zero.mp enough)
    simp [cut, empty]
  | succ steps ih =>
    cases text with
    | nil => simp [cut]
    | cons c rest =>
      simp only [cut, List.flatMap_cons]
      rw [ih]
      · simp
      · simp only [List.length_cons, List.length_drop] at enough ⊢
        omega

theorem flatMap_text_cutLine (grammar : Grammar) (state : grammar.State) (line : List Char) :
    (grammar.cutLine state line).1.flatMap Span.text = line :=
  grammar.flatMap_text_cut line.length state line (Nat.le_refl _)

theorem flatMap_text_cutLines (grammar : Grammar) (state : grammar.State)
    (lines : List (List Char)) :
    (grammar.cutLines state lines).flatMap Span.text = lines.flatten := by
  induction lines generalizing state with
  | nil => rfl
  | cons line lines ih =>
    simp only [cutLines, List.flatMap_append, List.flatten_cons, ih, flatMap_text_cutLine]

theorem flatMap_text_spans (grammar : Grammar) (text : List Char) :
    (grammar.spans text).flatMap Span.text = text := by
  rw [spans, flatMap_text_cutLines, Text.flatten_linesWithEndings]

end Grammar

def plainText : Grammar where
  State := Unit
  start := ()
  first := fun _ text => ⟨.plain, text.length, ()⟩

def runLength (test : Char → Bool) (text : List Char) : Nat :=
  (text.takeWhile test).length

end SearchQuery.Terminal
