import SearchQuery.Text.Blank
import SearchQuery.Text.Quoted

/-!
# Search terms

A term is one normalized part of a search: the word or phrase to look for, whether it is required,
optional or excluded, and how it is matched.
-/

set_option autoImplicit false

namespace SearchQuery

/-- The part a term plays in a search. -/
inductive Polarity where
  | must
  | should
  | mustNot
  /-- Any other part, by its key. The key may be that of one of the parts above; the two are
  different all the same. -/
  | other (key : String)
  deriving DecidableEq, Repr

namespace Polarity

def key : Polarity → String
  | must => "must"
  | should => "should"
  | mustNot => "must_not"
  | other key => key

def ofKey (key : String) : Polarity :=
  if key = "must" then must
  else if key = "should" then should
  else if key = "must_not" then mustNot
  else other key

/-- The part that a marker in front of a word stands for. -/
def ofMarker? : Char → Option Polarity
  | '+' => some must
  | '-' => some mustNot
  | '?' => some should
  | _ => none

theorem key_ofKey (key : String) : (ofKey key).key = key := by
  unfold ofKey
  split
  · simp_all [Polarity.key]
  · split
    · simp_all [Polarity.key]
    · split <;> simp_all [Polarity.key]

end Polarity

inductive MatchMode where
  /-- The words of the term in their order. -/
  | phrase
  /-- The words of the term, the last of which may be the start of a longer one. -/
  | fuzzy
  deriving DecidableEq, Repr

namespace MatchMode

def key : MatchMode → String
  | phrase => "match_phrase"
  | fuzzy => "match_phrase_prefix"

end MatchMode

/-- One normalized part of a search. -/
structure Term where
  word : String
  polarity : Polarity
  mode : MatchMode
  deriving DecidableEq, Repr

/-- A word or token without anything to search for. -/
structure EmptyToken where
  token : String
  deriving DecidableEq, Repr

namespace EmptyToken

def message (error : EmptyToken) : String :=
  "token " ++ Text.quoted error.token ++ " contains no searchable text"

end EmptyToken

namespace Term

/-- A term from a word, which is trimmed. Fails when nothing is left of the word. -/
def ofWord (word : String) (polarity : Polarity) (mode : MatchMode) : Except EmptyToken Term :=
  if Text.trim word.toList = [] then .error ⟨word⟩
  else .ok ⟨Text.trimmed word, polarity, mode⟩

end Term

end SearchQuery
