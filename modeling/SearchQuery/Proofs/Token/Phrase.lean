import SearchQuery.Term.Classify

/-!
# Closed phrases

What a closed phrase is, apart from any scanner: a quote, a body in which every quote has been
taken along by a backslash, and a quote. The scanners of tokens and of terms find exactly these:
the lookahead (`phraseFollows_iff`), the reader (`readPhrase_closed`) and the test for a phrase that
is a whole token (`isQuoted_iff`). No closed phrase is a proper start of another, so the one at the
start of a text is unique.
-/

set_option autoImplicit false

namespace SearchQuery.Token

/-- What may stand between the quotes of a phrase: characters other than quotes and backslashes, and
backslashes each with the character that it takes along. -/
inductive PhraseBody : List Char → Prop where
  | nil : PhraseBody []
  | plain {c : Char} {rest : List Char} :
      c ≠ '"' → c ≠ '\\' → PhraseBody rest → PhraseBody (c :: rest)
  | escaped {c : Char} {rest : List Char} : PhraseBody rest → PhraseBody ('\\' :: c :: rest)

/-- A phrase with its two quotes, the second of which is the first that no backslash has taken
along. -/
def ClosedPhrase (phrase : List Char) : Prop :=
  ∃ body, PhraseBody body ∧ phrase = '"' :: (body ++ ['"'])

/-!
## Bodies up to their closing quote
-/

theorem PhraseBody.closes {body : List Char} (valid : PhraseBody body) (rest : List Char) :
    closes (body ++ '"' :: rest) = true := by
  induction valid with
  | nil => rfl
  | plain notQuote notBackslash _ ih =>
    rw [List.cons_append, Token.closes.eq_4 _ _ notQuote (fun _ _ same _ => notBackslash same)]
    exact ih
  | escaped _ ih => exact ih

theorem PhraseBody.readClosing {body : List Char} (valid : PhraseBody body) (rest : List Char) :
    readClosing (body ++ '"' :: rest) = (body ++ ['"'], rest) := by
  induction valid with
  | nil => rfl
  | plain notQuote notBackslash _ ih =>
    rw [List.cons_append,
      Token.readClosing.eq_4 _ _ notQuote (fun _ _ same _ => notBackslash same), ih]
    rfl
  | escaped _ ih =>
    rw [List.cons_append, List.cons_append, Token.readClosing.eq_3, ih]
    rfl

/-- The lookahead finds a closing quote exactly behind a body. -/
theorem closes_iff (text : List Char) :
    closes text = true ↔ ∃ body rest, PhraseBody body ∧ text = body ++ '"' :: rest := by
  constructor
  · intro closed
    fun_induction closes text with
    | case1 => cases closed
    | case2 rest => exact ⟨[], rest, .nil, rfl⟩
    | case3 c text ih =>
      obtain ⟨body, rest, valid, rfl⟩ := ih closed
      exact ⟨'\\' :: c :: body, rest, .escaped valid, rfl⟩
    | case4 c text notQuote notEscape ih =>
      obtain ⟨body, rest, valid, rfl⟩ := ih closed
      -- A backslash before a body would have been read with the character after it.
      have notBackslash : c ≠ '\\' := by
        intro same
        subst same
        cases body with
        | nil => exact notEscape '"' rest rfl rfl
        | cons first more => exact notEscape first (more ++ '"' :: rest) rfl rfl
      exact ⟨c :: body, rest, .plain notQuote notBackslash valid, rfl⟩
  · intro parts
    obtain ⟨body, rest, valid, rfl⟩ := parts
    exact valid.closes rest

theorem PhraseBody.unique {body other rest unread : List Char} (valid : PhraseBody body)
    (otherValid : PhraseBody other) (same : body ++ '"' :: rest = other ++ '"' :: unread) :
    body = other ∧ rest = unread := by
  have read := valid.readClosing rest
  rw [same, otherValid.readClosing unread] at read
  have bodies : other ++ ['"'] = body ++ ['"'] := congrArg Prod.fst read
  exact ⟨(List.append_cancel_right bodies).symm, (congrArg Prod.snd read).symm⟩

/-!
## Closed phrases in a text
-/

theorem ClosedPhrase.head? {phrase : List Char} (closed : ClosedPhrase phrase) :
    phrase.head? = some '"' := by
  obtain ⟨body, _, rfl⟩ := closed
  rfl

theorem ClosedPhrase.getLast? {phrase : List Char} (closed : ClosedPhrase phrase) :
    phrase.getLast? = some '"' := by
  obtain ⟨body, _, rfl⟩ := closed
  rw [← List.cons_append, List.getLast?_append]
  rfl

theorem ClosedPhrase.unique {phrase other rest unread : List Char} (closed : ClosedPhrase phrase)
    (otherClosed : ClosedPhrase other) (same : phrase ++ rest = other ++ unread) :
    phrase = other ∧ rest = unread := by
  obtain ⟨body, valid, rfl⟩ := closed
  obtain ⟨otherBody, otherValid, rfl⟩ := otherClosed
  have bodies : body ++ '"' :: rest = otherBody ++ '"' :: unread := by simpa using same
  obtain ⟨rfl, rfl⟩ := valid.unique otherValid bodies
  exact ⟨rfl, rfl⟩

theorem readPhrase_closed {phrase : List Char} (closed : ClosedPhrase phrase) (rest : List Char) :
    readPhrase (phrase ++ rest) = (phrase, rest) := by
  obtain ⟨body, valid, rfl⟩ := closed
  have whole : '"' :: (body ++ ['"']) ++ rest = '"' :: (body ++ '"' :: rest) := by simp
  rw [whole, readPhrase, valid.readClosing]

/-- The lookahead is the question whether a closed phrase starts the text from there on. -/
theorem phraseFollows_iff (skip : Nat) (text : List Char) :
    phraseFollows skip text = true ↔ ∃ phrase, ClosedPhrase phrase ∧ phrase <+: text.drop skip := by
  unfold phraseFollows
  constructor
  · intro follows
    split at follows
    · rename_i rest start
      obtain ⟨body, unread, valid, rfl⟩ := (closes_iff rest).mp follows
      exact ⟨'"' :: (body ++ ['"']), ⟨body, valid, rfl⟩, unread, by simp [start]⟩
    · cases follows
  · intro parts
    obtain ⟨_, ⟨body, valid, rfl⟩, unread, whole⟩ := parts
    rw [← whole]
    have start : '"' :: (body ++ ['"']) ++ unread = '"' :: (body ++ '"' :: unread) := by simp
    rw [start]
    exact valid.closes unread

theorem phraseFollows_closed {phrase : List Char} (closed : ClosedPhrase phrase)
    (rest : List Char) : phraseFollows 0 (phrase ++ rest) = true :=
  (phraseFollows_iff 0 _).mpr ⟨phrase, closed, List.prefix_append phrase rest⟩

end SearchQuery.Token

namespace SearchQuery.Term

open SearchQuery.Token (PhraseBody ClosedPhrase)

theorem endsWithQuote_iff (text : List Char) :
    endsWithQuote text = true ↔ ∃ body, PhraseBody body ∧ text = body ++ ['"'] := by
  constructor
  · intro ends
    fun_induction endsWithQuote text with
    | case1 => cases ends
    | case2 rest =>
      have nothing : rest = [] := List.isEmpty_iff.mp ends
      exact ⟨[], .nil, by rw [nothing]; rfl⟩
    | case3 c text ih =>
      obtain ⟨body, valid, rfl⟩ := ih ends
      exact ⟨'\\' :: c :: body, .escaped valid, rfl⟩
    | case4 c text notQuote notEscape ih =>
      obtain ⟨body, valid, rfl⟩ := ih ends
      have notBackslash : c ≠ '\\' := by
        intro same
        subst same
        cases body with
        | nil => exact notEscape '"' [] rfl rfl
        | cons first more => exact notEscape first (more ++ ['"']) rfl rfl
      exact ⟨c :: body, .plain notQuote notBackslash valid, rfl⟩
  · intro parts
    obtain ⟨body, valid, rfl⟩ := parts
    induction valid with
    | nil => rfl
    | plain notQuote notBackslash _ ih =>
      rw [List.cons_append,
        Term.endsWithQuote.eq_4 _ _ notQuote (fun _ _ same _ => notBackslash same)]
      exact ih
    | escaped _ ih => exact ih

/-- The test of a whole text asks whether the text is a closed phrase. -/
theorem isQuoted_iff (text : List Char) : isQuoted text = true ↔ ClosedPhrase text := by
  unfold isQuoted
  constructor
  · intro quoted
    split at quoted
    · rename_i rest
      obtain ⟨body, valid, rfl⟩ := (endsWithQuote_iff rest).mp quoted
      exact ⟨body, valid, rfl⟩
    · cases quoted
  · intro parts
    obtain ⟨body, valid, rfl⟩ := parts
    exact (endsWithQuote_iff _).mpr ⟨body, valid, rfl⟩

end SearchQuery.Term
