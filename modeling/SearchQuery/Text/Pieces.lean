/-!
# Separated lists

A text that lists pieces with a separator between them. There is one piece more than there are
separators.
-/

set_option autoImplicit false

namespace SearchQuery.Text

def pieces (separator : Char) : List Char → List (List Char)
  | [] => [[]]
  | c :: rest =>
    if c = separator then [] :: pieces separator rest
    else match pieces separator rest with
      | first :: others => (c :: first) :: others
      | [] => [[c]]

theorem pieces_ne_nil (separator : Char) (text : List Char) : pieces separator text ≠ [] := by
  fun_induction pieces separator text <;> simp

end SearchQuery.Text
