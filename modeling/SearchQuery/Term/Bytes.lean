import SearchQuery.Term.Classify
import SearchQuery.Text.Slice

/-!
# From tokens to terms, by byte offsets

The steps from a token to a term as they are taken on a text of bytes: the closing quote is told by
its offset, and the marker and the quotes are cut off by offsets. A cut inside a character gives no
result.
-/

set_option autoImplicit false

namespace SearchQuery.Term

open SearchQuery.Text

/-- Whether the first quote that closes a phrase is the last byte of a text of the given size. What
is left of the text starts at the given offset. -/
def endsWithQuoteByBytes (size offset : Nat) : List Char → Bool
  | [] => false
  | '"' :: _ => offset + 1 == size
  | '\\' :: c :: rest => endsWithQuoteByBytes size (offset + '\\'.utf8Size + c.utf8Size) rest
  | c :: rest => endsWithQuoteByBytes size (offset + c.utf8Size) rest

def isQuotedByBytes (text : String) : Bool :=
  match text.toList with
  | '"' :: rest => endsWithQuoteByBytes (String.ofList rest).utf8ByteSize 0 rest
  | _ => false

/-- Splits the marker off a token. There is no result if the first byte is not a character. -/
def splitMarkerByBytes? (token : String) : Option (Polarity × String) :=
  match token.toList.head?.bind Polarity.ofMarker? with
  | some polarity => (slice? token 1 token.utf8ByteSize).map (polarity, ·)
  | none => some (.should, token)

/-- Reads what stands after the marker. There is no result if the first byte of a phrase or the last
one is not a character. -/
def readBodyByBytes? (body : String) : Option (MatchMode × String) :=
  if isQuotedByBytes body then
    (slice? body 1 (body.utf8ByteSize - 1)).map fun inner =>
      (.phrase, String.ofList (unescape inner.toList))
  else some (.fuzzy, String.ofList (body.toList.filter (· != '"')))

/-- The term of a token, or what is wrong with the token. There is no result if a part of the token
is cut out inside a character. -/
def ofTokenByBytes? (token : String) : Option (Except EmptyToken Term) := do
  let (polarity, body) ← splitMarkerByBytes? (trimmed token)
  let (mode, word) ← readBodyByBytes? body
  match ofWord word polarity mode with
  | .ok term => return .ok term
  | .error _ => return .error ⟨token⟩

end SearchQuery.Term
