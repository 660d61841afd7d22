import SearchQuery.Proofs.Token.Phrase

/-!
# The branches of the reader

The reader of tokens takes one of four branches: a question mark in front of a closed phrase, a sign
with the closed phrase behind it, a closed phrase, or a word. `readToken_eq` gives what each of them
reads. Which one is taken depends on how the text starts, and the four equations `readToken_closed`,
`readToken_signed`, `readToken_question` and `readToken_word` are all that the proofs about tokens
need to know of the reader.

The reader is called once for each token, at the place where the token starts (`ofLowered_eq_map`).
-/

set_option autoImplicit false

namespace SearchQuery.Token

open SearchQuery.Text

/-- A text starts with a closed phrase, or with a marker directly before one. -/
def OpensPhrase (text : List Char) : Prop :=
  ∃ phrase, ClosedPhrase phrase ∧
    (phrase <+: text ∨ ∃ marker ∈ ['+', '-', '?'], marker :: phrase <+: text)

/-- The ways to read the token at the start of a text. -/
inductive Branch where
  | question
  | signed
  | phrase
  | word
  deriving DecidableEq, Repr

namespace Branch

/-- Whether the token that a branch reads is a phrase, perhaps with a sign in front. The question
mark in front of a phrase is a token by itself. -/
def readsPhrase : Branch → Bool
  | .question => false
  | .signed => true
  | .phrase => true
  | .word => false

/-- The token that a branch reads at the start of a text, and the text after it. -/
def read : Branch → List Char → List Char × List Char
  | .question, text => (text.take 1, text.drop 1)
  | .signed, text =>
    let (closed, unread) := readPhrase (text.drop 1)
    (text.take 1 ++ closed, unread)
  | .phrase, text => readPhrase text
  | .word, text => readWord text

end Branch

/-- The branch that the reader takes at the start of a text. -/
def branch : List Char → Branch
  | [] => .word
  | c :: rest =>
    if c = '?' ∧ phraseFollows 1 (c :: rest) then .question
    else if (c = '+' ∨ c = '-') ∧ phraseFollows 1 (c :: rest) then .signed
    else if phraseFollows 0 (c :: rest) then .phrase
    else .word

theorem readToken_eq (text : List Char) : readToken text = (branch text).read text := by
  cases text with
  | nil => rfl
  | cons c rest =>
    simp only [readToken, branch]
    split
    · rfl
    · split
      · rfl
      · split <;> rfl

/-!
## Which branch is taken
-/

private theorem phraseFollows_one (marker : Char) (text : List Char) :
    phraseFollows 1 (marker :: text) = phraseFollows 0 text := rfl

theorem branch_closed {phrase : List Char} (closed : ClosedPhrase phrase) (rest : List Char) :
    branch (phrase ++ rest) = .phrase := by
  have follows := phraseFollows_closed closed rest
  obtain ⟨body, _, rfl⟩ := closed
  rw [List.cons_append] at follows ⊢
  rw [branch, if_neg (by simp), if_neg (by simp), if_pos follows]

theorem branch_signed {sign : Char} (isSign : sign = '+' ∨ sign = '-') {phrase : List Char}
    (closed : ClosedPhrase phrase) (rest : List Char) :
    branch (sign :: (phrase ++ rest)) = .signed := by
  have follows := phraseFollows_closed closed rest
  rcases isSign with rfl | rfl <;> simp [branch, phraseFollows_one, follows]

theorem branch_question {phrase : List Char} (closed : ClosedPhrase phrase) (rest : List Char) :
    branch ('?' :: (phrase ++ rest)) = .question := by
  have follows := phraseFollows_closed closed rest
  simp [branch, phraseFollows_one, follows]

theorem opensPhrase_of_follows {text : List Char} (follows : phraseFollows 0 text = true) :
    OpensPhrase text := by
  obtain ⟨phrase, closed, starts⟩ := (phraseFollows_iff 0 text).mp follows
  exact ⟨phrase, closed, .inl starts⟩

theorem opensPhrase_of_follows_marker {marker : Char} {rest : List Char}
    (isMarker : marker ∈ ['+', '-', '?']) (follows : phraseFollows 1 (marker :: rest) = true) :
    OpensPhrase (marker :: rest) := by
  obtain ⟨phrase, closed, unread, whole⟩ := (phraseFollows_iff 1 (marker :: rest)).mp follows
  have whole : phrase ++ unread = rest := whole
  exact ⟨phrase, closed, .inr ⟨marker, isMarker, unread, by rw [← whole]; rfl⟩⟩

theorem branch_word {text : List Char} (noPhrase : ¬ OpensPhrase text) :
    branch text = .word := by
  cases text with
  | nil => rfl
  | cons c rest =>
    have notHere : ¬ phraseFollows 0 (c :: rest) = true := fun follows =>
      noPhrase (opensPhrase_of_follows follows)
    have notBehind (isMarker : c ∈ ['+', '-', '?']) : ¬ phraseFollows 1 (c :: rest) = true :=
      fun follows => noPhrase (opensPhrase_of_follows_marker isMarker follows)
    have notQuestion : ¬ (c = '?' ∧ phraseFollows 1 (c :: rest) = true) := fun parts =>
      notBehind (by simp [parts.1]) parts.2
    have notSigned : ¬ ((c = '+' ∨ c = '-') ∧ phraseFollows 1 (c :: rest) = true) := fun parts =>
      notBehind (by rcases parts.1 with rfl | rfl <;> simp) parts.2
    rw [branch, if_neg notQuestion, if_neg notSigned, if_neg notHere]

/-!
## What is read
-/

theorem readToken_closed {phrase : List Char} (closed : ClosedPhrase phrase) (rest : List Char) :
    readToken (phrase ++ rest) = (phrase, rest) := by
  rw [readToken_eq, branch_closed closed]
  exact readPhrase_closed closed rest

theorem readToken_signed {sign : Char} (isSign : sign = '+' ∨ sign = '-') {phrase : List Char}
    (closed : ClosedPhrase phrase) (rest : List Char) :
    readToken (sign :: (phrase ++ rest)) = (sign :: phrase, rest) := by
  rw [readToken_eq, branch_signed isSign closed]
  simp [Branch.read, readPhrase_closed closed rest]

theorem readToken_question {phrase : List Char} (closed : ClosedPhrase phrase)
    (rest : List Char) : readToken ('?' :: (phrase ++ rest)) = (['?'], phrase ++ rest) := by
  rw [readToken_eq, branch_question closed]
  rfl

theorem readToken_word {text : List Char} (noPhrase : ¬ OpensPhrase text) :
    readToken text = readWord text := by
  rw [readToken_eq, branch_word noPhrase]
  rfl

/-!
## Where tokens start
-/

/-- The texts that the reader is given in turn: what is left of a text from the start of each of its
tokens on. -/
def starts (text : List Char) : List (List Char) :=
  match _found : next? text with
  | none => []
  | some (_, unread) => trimStart text :: starts unread
termination_by text.length
decreasing_by exact length_next?_lt _found

theorem next?_eq_some_readToken {text token unread : List Char}
    (found : next? text = some (token, unread)) :
    trimStart text ≠ [] ∧ readToken (trimStart text) = (token, unread) := by
  unfold next? at found
  split at found
  · cases found
  · rename_i c rest start
    rw [start]
    exact ⟨List.cons_ne_nil c rest, Option.some.inj found⟩

theorem starts_eq (text : List Char) :
    starts text =
      match next? text with
      | none => []
      | some (_, unread) => trimStart text :: starts unread := by
  rw [starts]
  split <;> rename_i found <;> rw [found]

theorem ofLowered_eq_map (text : List Char) :
    ofLowered text = (starts text).map fun start => (readToken start).1 := by
  fun_induction ofLowered text with
  | case1 text nothing =>
    rw [starts_eq, nothing]
    rfl
  | case2 text token unread found ih =>
    rw [starts_eq, found, ih, List.map_cons, (next?_eq_some_readToken found).2]

end SearchQuery.Token
