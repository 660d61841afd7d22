import SearchQuery.Term.Basic
import SearchQuery.Term.Token

/-!
# From tokens to terms

A token is read as a term in three steps. A marker in front of it (`+`, `-` or `?`) gives its part
in the search. What is left is a phrase if it stands between double quotes, the closing one being
the first that no backslash precedes; its backslash escapes are resolved. Anything else is a word,
from which stray quotes are dropped. A token of which nothing remains is no term.
-/

set_option autoImplicit false

namespace SearchQuery.Term

open SearchQuery.Text

/-- Whether the first quote that closes a phrase is the last character of the text. The opening
quote has been read. -/
def endsWithQuote : List Char → Bool
  | [] => false
  | '"' :: rest => rest.isEmpty
  | '\\' :: _ :: rest => endsWithQuote rest
  | _ :: rest => endsWithQuote rest

/-- Whether a text as a whole is a phrase between double quotes. -/
def isQuoted : List Char → Bool
  | '"' :: rest => endsWithQuote rest
  | _ => false

/-- Resolves the backslash escapes inside a phrase: a backslash gives way to the character after
it. A backslash at the very end stays. -/
def unescape : List Char → List Char
  | [] => []
  | '\\' :: c :: rest => c :: unescape rest
  | c :: rest => c :: unescape rest

/-- Splits the marker off a token. A token without one is optional. -/
def splitMarker : List Char → Polarity × List Char
  | [] => (.should, [])
  | c :: rest =>
    match Polarity.ofMarker? c with
    | some polarity => (polarity, rest)
    | none => (.should, c :: rest)

/-- Reads what stands after the marker: a phrase without its quotes, or a word. -/
def readBody (body : List Char) : MatchMode × List Char :=
  if isQuoted body then (.phrase, unescape (body.drop 1).dropLast)
  else (.fuzzy, body.filter (· != '"'))

def ofToken (token : String) : Except EmptyToken Term :=
  let (polarity, body) := splitMarker (trim token.toList)
  let (mode, word) := readBody body
  match ofWord (String.ofList word) polarity mode with
  | .ok term => .ok term
  | .error _ => .error ⟨token⟩

end SearchQuery.Term
