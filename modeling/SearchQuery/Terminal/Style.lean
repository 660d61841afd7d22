/-!
# Styled text

A terminal shows text in a style that an escape sequence switches on, up to the sequence that
switches all styles off. A sequence starts with the escape character and ends with the letter m.
-/

set_option autoImplicit false

namespace SearchQuery.Terminal

def reset : String := "\x1b[0m"

def styled (start text : String) : String :=
  start ++ text ++ reset

/-- A header: bold and cyan. -/
def header (text : String) : String :=
  styled "\x1b[1m\x1b[36m" text

/-- A header of less weight: bold. -/
def subheader (text : String) : String :=
  styled "\x1b[1m" text

def dim (text : String) : String :=
  styled "\x1b[2m" text

def warning (text : String) : String :=
  styled "\x1b[33m" text

/-- What a terminal shows of a text: all but the escape sequences. One that does not end is none. The
first argument says whether the text starts inside of one. -/
def stripFrom : Bool → List Char → List Char
  | _, [] => []
  | true, c :: rest => stripFrom (c != 'm') rest
  | false, c :: rest =>
    if c == '\x1b' && rest.contains 'm' then stripFrom true rest else c :: stripFrom false rest

def strip (text : String) : String :=
  String.ofList (stripFrom false text.toList)

end SearchQuery.Terminal
