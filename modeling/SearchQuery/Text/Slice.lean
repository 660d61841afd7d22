/-!
# Parts of a text

A part of a text is taken out between two byte offsets. Each of them must lie between two characters,
or at an end of the text.
-/

set_option autoImplicit false

namespace SearchQuery.Text

/-- The part of a text from one byte offset to another. There is none unless both lie between
characters of the text, or at its ends, and the second not before the first. -/
def slice? (text : String) (start stop : Nat) : Option String := do
  let first ← text.pos? ⟨start⟩
  let last ← text.pos? ⟨stop⟩
  let part ← text.slice? first last
  return part.copy

end SearchQuery.Text
