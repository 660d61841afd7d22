import SearchQuery.Json.NumberText
import SearchQuery.Json.Reader

/-!
# Reading JSON within limits

`strictValue?` reads a text that is one JSON value within the limits of a reader that makes up the
value in memory: on nesting, on the size of numbers, and on the escapes in strings.
-/

set_option autoImplicit false

namespace SearchQuery.Json

/-- How deep arrays and objects may be nested. -/
def greatestDepth : Nat := 127

/-- Reads a text as a JSON value. Nesting is limited, every number has to be in the range of doubles,
and every string has to have a text. -/
def strictValue? (text : String) : Option (Json String) :=
  match read? text.toList with
  | none => none
  | some written =>
    if decide (written.depth ≤ greatestDepth) && written.allNumbers (·.text?.isSome) then
      written.mapTexts? sourceText?
    else none

end SearchQuery.Json
