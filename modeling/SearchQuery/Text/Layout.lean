/-!
# Lines and columns

How a text is cut into lines, and how a cell of a table is filled up with blanks. Columns are
counted in characters.
-/

set_option autoImplicit false

namespace SearchQuery.Text

/-- Fills a text up with blanks at its end to the given number of characters. A longer text is
left as it is. -/
def padEnd (width : Nat) (text : List Char) : List Char :=
  text ++ List.replicate (width - text.length) ' '

theorem length_padEnd (width : Nat) (text : List Char) :
    (padEnd width text).length = max width text.length := by
  simp only [padEnd, List.length_append, List.length_replicate]
  omega

/-- Cuts a text after each line feed. The last piece has none when the text does not end with one;
no piece is empty. -/
def linesWithEndings : List Char → List (List Char)
  | [] => []
  | '\n' :: rest => ['\n'] :: linesWithEndings rest
  | c :: rest =>
    match linesWithEndings rest with
    | [] => [[c]]
    | line :: lines => (c :: line) :: lines

theorem flatten_linesWithEndings (text : List Char) : (linesWithEndings text).flatten = text := by
  fun_induction linesWithEndings text with
  | case1 => rfl
  | case2 rest ih => simp [ih]
  | case3 c rest _ cut ih => simp_all
  | case4 c rest _ line lines cut ih => simp_all

/-- A line without its ending: a line feed, or a carriage return and a line feed. A carriage return
that no line feed follows belongs to the line. -/
def withoutEnding (line : List Char) : List Char :=
  match line.reverse with
  | '\n' :: '\r' :: rest => rest.reverse
  | '\n' :: rest => rest.reverse
  | _ => line

def lines (text : List Char) : List (List Char) :=
  (linesWithEndings text).map withoutEnding

end SearchQuery.Text
