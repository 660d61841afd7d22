import SearchQuery.Proofs.Term.Written

/-!
# Tokens of joined texts

Tokens with single spaces between them are read as the same tokens again, and the tokens of two
texts with a space between them are those of the one and then those of the other, provided that no
quote is left open in the first.

A closed phrase stays a token whatever comes after it; what could change is a word that starts with
a quote. Whether that quote is closed later on does not depend on how many blanks stand between the
tokens (`closes_append`, `closes_spaced`): a backslash at the end of a token takes along the first
blank after it and no more, and behind an open quote there are no phrases, so that no two tokens
touch there.
-/

set_option autoImplicit false

namespace SearchQuery.Token

open SearchQuery.Text

/-- A text starts with a quote, or with a marker and a quote, and goes on behind it. -/
def BehindQuote (text body : List Char) : Prop :=
  text = '"' :: body ∨ ∃ marker ∈ ['+', '-', '?'], text = marker :: '"' :: body

/-- A token that starts like a phrase, but whose quote is never closed. -/
def IsUnclosed (token : List Char) : Prop :=
  (∃ body, BehindQuote token body) ∧ ¬ OpensPhrase token

/-!
## Quotes at the start of a text
-/

theorem BehindQuote.append {text body : List Char} (behind : BehindQuote text body)
    (rest : List Char) : BehindQuote (text ++ rest) (body ++ rest) := by
  obtain rfl | ⟨marker, isMarker, rfl⟩ := behind
  · exact .inl rfl
  · exact .inr ⟨marker, isMarker, rfl⟩

theorem BehindQuote.of_append {text rest body : List Char} (notEmpty : text ≠ [])
    (notQuote : rest.head? ≠ some '"') (behind : BehindQuote (text ++ rest) body) :
    ∃ inner, BehindQuote text inner ∧ body = inner ++ rest := by
  obtain ⟨first, others, rfl⟩ := List.exists_cons_of_ne_nil notEmpty
  obtain whole | ⟨marker, isMarker, whole⟩ := behind
  · obtain ⟨rfl, rfl⟩ := List.cons.inj whole
    exact ⟨others, .inl rfl, rfl⟩
  · obtain ⟨isFirst, later⟩ := List.cons.inj whole
    subst isFirst
    cases others with
    | nil => exact absurd (congrArg List.head? later) notQuote
    | cons second others =>
      obtain ⟨rfl, rfl⟩ := List.cons.inj later
      exact ⟨others, .inr ⟨first, isMarker, rfl⟩, rfl⟩

theorem opensPhrase_iff (text : List Char) :
    OpensPhrase text ↔ ∃ body, BehindQuote text body ∧ closes body = true := by
  constructor
  · intro opens
    obtain ⟨phrase, ⟨body, valid, rfl⟩, starts⟩ := opens
    have closed (rest : List Char) : closes (body ++ ['"'] ++ rest) = true := by
      rw [List.append_assoc]
      exact valid.closes rest
    obtain ⟨rest, rfl⟩ | ⟨marker, isMarker, rest, rfl⟩ := starts
    · exact ⟨_, .inl rfl, closed rest⟩
    · exact ⟨_, .inr ⟨marker, isMarker, rfl⟩, closed rest⟩
  · intro parts
    obtain ⟨whole, behind, closed⟩ := parts
    obtain ⟨body, rest, valid, rfl⟩ := (closes_iff whole).mp closed
    have phrase : '"' :: (body ++ ['"']) <+: '"' :: (body ++ '"' :: rest) := ⟨rest, by simp⟩
    refine ⟨_, ⟨body, valid, rfl⟩, ?_⟩
    obtain rfl | ⟨marker, isMarker, rfl⟩ := behind
    · exact .inl phrase
    · exact .inr ⟨marker, isMarker, (List.prefix_cons_inj marker).mpr phrase⟩

theorem BehindQuote.unique {text body other : List Char} (behind : BehindQuote text body)
    (otherBehind : BehindQuote text other) : body = other := by
  have notMarker : '"' ∉ ['+', '-', '?'] := by decide
  obtain rfl | ⟨marker, isMarker, rfl⟩ := behind
  · obtain same | ⟨marker, isMarker, same⟩ := otherBehind
    · exact (List.cons.inj same).2
    · exact absurd ((List.cons.inj same).1 ▸ isMarker) notMarker
  · obtain same | ⟨otherMarker, -, same⟩ := otherBehind
    · exact absurd ((List.cons.inj same).1 ▸ isMarker) notMarker
    · exact (List.cons.inj (List.cons.inj same).2).2

theorem isUnclosed_iff (token : List Char) :
    IsUnclosed token ↔ ∃ body, BehindQuote token body ∧ closes body = false := by
  constructor
  · intro unclosed
    obtain ⟨⟨body, behind⟩, noPhrase⟩ := unclosed
    refine ⟨body, behind, Bool.eq_false_iff.mpr fun closed => noPhrase ?_⟩
    exact (opensPhrase_iff token).mpr ⟨body, behind, closed⟩
  · intro parts
    obtain ⟨body, behind, isOpen⟩ := parts
    refine ⟨⟨body, behind⟩, fun opens => ?_⟩
    obtain ⟨other, otherBehind, closed⟩ := (opensPhrase_iff token).mp opens
    obtain rfl := behind.unique otherBehind
    rw [isOpen] at closed
    cases closed

instance (text body : List Char) : Decidable (BehindQuote text body) :=
  decidable_of_iff
    (text = '"' :: body ∨ text = '+' :: '"' :: body ∨ text = '-' :: '"' :: body ∨
      text = '?' :: '"' :: body) <| by
    simp only [BehindQuote, List.mem_cons, List.not_mem_nil, or_false, exists_eq_or_imp,
      exists_eq_left]

instance (token : List Char) : Decidable (IsUnclosed token) :=
  decidable_of_iff
    (∃ body ∈ [token.drop 1, token.drop 2], BehindQuote token body ∧ closes body = false) <| by
    refine Iff.trans ⟨fun found => ?_, fun found => ?_⟩ (isUnclosed_iff token).symm
    · obtain ⟨body, -, parts⟩ := found
      exact ⟨body, parts⟩
    · obtain ⟨body, behind, isOpen⟩ := found
      refine ⟨body, ?_, behind, isOpen⟩
      obtain rfl | ⟨marker, -, rfl⟩ := behind
      · exact List.mem_cons_self
      · exact List.mem_cons_of_mem _ List.mem_cons_self

theorem OpensPhrase.append {text : List Char} (opens : OpensPhrase text) (rest : List Char) :
    OpensPhrase (text ++ rest) := by
  obtain ⟨phrase, closed, starts⟩ := opens
  have longer : text <+: text ++ rest := List.prefix_append text rest
  obtain here | ⟨marker, isMarker, behind⟩ := starts
  · exact ⟨phrase, closed, .inl (here.trans longer)⟩
  · exact ⟨phrase, closed, .inr ⟨marker, isMarker, behind.trans longer⟩⟩

/-- The four kinds of tokens, with what may stand behind them. -/
theorem TokenAt.kinds {token rest : List Char} (isToken : TokenAt (token ++ rest) token) :
    ClosedPhrase token ∨
    (∃ sign phrase, (sign = '+' ∨ sign = '-') ∧ ClosedPhrase phrase ∧ token = sign :: phrase) ∨
    (token = ['?'] ∧ ∃ phrase later, ClosedPhrase phrase ∧ rest = phrase ++ later) ∨
    (¬ OpensPhrase (token ++ rest) ∧ (∀ c ∈ token, isBlank c = false) ∧
      ∀ c, rest.head? = some c → isBlank c = true) := by
  generalize whole : token ++ rest = text at isToken
  cases isToken with
  | phrase closed => exact .inl closed
  | @signed sign phrase _ isSign closed => exact .inr (.inl ⟨sign, phrase, isSign, closed, rfl⟩)
  | @question phrase later closed =>
    exact .inr (.inr (.inl ⟨rfl, phrase, later, closed, (List.cons.inj whole).2⟩))
  | word noPhrase longest =>
    subst whole
    refine .inr (.inr (.inr ⟨noPhrase, longest.visible, fun c first => ?_⟩))
    by_contra visible
    obtain ⟨others, rfl⟩ := List.head?_eq_some_iff.mp first
    -- A visible character behind a word would belong to the word.
    have longer := longest.longest (token ++ [c]) ⟨others, by simp⟩ (by
      intro d member
      rcases List.mem_append.mp member with inWord | isLast
      · exact longest.visible d inWord
      · rw [List.mem_singleton.mp isLast]
        exact Bool.eq_false_iff.mpr visible)
    rw [List.length_append, List.length_singleton] at longer
    omega

/-!
## Closing quotes behind blanks
-/

theorem closes_plain {c : Char} (notQuote : c ≠ '"') (notBackslash : c ≠ '\\')
    (rest : List Char) : closes (c :: rest) = closes rest :=
  closes.eq_4 c rest notQuote fun _ _ same _ => notBackslash same

theorem closes_blank {c : Char} (blank : isBlank c = true) (rest : List Char) :
    closes (c :: rest) = closes rest := by
  apply closes_plain
  · rintro rfl
    cases blank
  · rintro rfl
    cases blank

theorem closes_gap {gap : List Char} (blank : ∀ c ∈ gap, isBlank c = true) (rest : List Char) :
    closes (gap ++ rest) = closes rest := by
  induction gap with
  | nil => rfl
  | cons c gap ih =>
    obtain ⟨here, later⟩ := List.forall_mem_cons.mp blank
    exact (closes_blank here (gap ++ rest)).trans (ih later)

/-- Before a blank, a quote is closed or left open for good: a backslash does not reach beyond. -/
theorem closes_append (word : List Char) {rest : List Char}
    (ends : ∀ c, rest.head? = some c → isBlank c = true) :
    closes (word ++ rest) = (closes word || closes rest) := by
  fun_induction closes word with
  | case1 => rfl
  | case2 word => rfl
  | case3 c word ih => exact ih
  | case4 c word notQuote notEscape ih =>
    by_cases isBackslash : c = '\\'
    · subst isBackslash
      have isLast : word = [] := by
        cases word with
        | nil => rfl
        | cons d word => exact absurd rfl (notEscape d word rfl)
      subst isLast
      cases rest with
      | nil => rfl
      | cons d later => exact (closes_blank (ends d rfl) later).symm
    · rw [List.cons_append, closes_plain notQuote isBackslash]
      exact ih

/-!
## Tokens with a space before each
-/

/-- Tokens, each behind a space. -/
def spaced (tokens : List (List Char)) : List Char :=
  tokens.flatMap (' ' :: ·)

theorem spaced_cons (token : List Char) (tokens : List (List Char)) :
    spaced (token :: tokens) = ' ' :: (token ++ spaced tokens) :=
  rfl

theorem isBlank_of_head_spaced (tokens : List (List Char)) :
    ∀ c, (spaced tokens).head? = some c → isBlank c = true := by
  intro c first
  cases tokens with
  | nil => cases first
  | cons token tokens =>
    cases first
    rfl

theorem intercalate_cons_eq_spaced (token : List Char) (tokens : List (List Char)) :
    [' '].intercalate (token :: tokens) = token ++ spaced tokens := by
  induction tokens generalizing token with
  | nil => simp [spaced]
  | cons next tokens ih =>
    rw [List.intercalate_cons_cons, ih next, spaced_cons, List.append_assoc]
    rfl

theorem closes_spaced (text : List Char) : closes (spaced (ofLowered text)) = closes text := by
  fun_induction ofLowered text with
  | case1 text nothing =>
    have blank := (next?_eq_none_iff text).mp nothing
    have none := closes_gap blank []
    rw [List.append_nil] at none
    exact none.symm
  | case2 text token unread found ih =>
    obtain ⟨gap, blank, rfl, -, isToken⟩ := (next?_eq_some_iff text token unread).mp found
    have skipped : closes (spaced (token :: ofLowered unread)) =
        closes (token ++ spaced (ofLowered unread)) := closes_blank rfl _
    rw [skipped, closes_gap blank]
    obtain ⟨body, _, rfl⟩ | ⟨sign, _, isSign, ⟨body, _, rfl⟩, rfl⟩ |
      ⟨rfl, _, later, ⟨body, _, rfl⟩, rfl⟩ | ⟨-, -, ends⟩ := isToken.kinds
    · rfl
    · rcases isSign with rfl | rfl <;> rfl
    · exact ih
    · rw [closes_append token ends, closes_append token (isBlank_of_head_spaced _), ih]

/-- A token of a text stays a token when the tokens after it are set one space apart. -/
theorem TokenAt.spaced {token rest : List Char} (notEmpty : token ≠ [])
    (isToken : TokenAt (token ++ rest) token) :
    TokenAt (token ++ Token.spaced (ofLowered rest)) token := by
  have ends := isBlank_of_head_spaced (ofLowered rest)
  have notQuote : (Token.spaced (ofLowered rest)).head? ≠ some '"' := by
    intro first
    cases ends '"' first
  obtain closed | ⟨sign, phrase, isSign, closed, rfl⟩ | ⟨rfl, -⟩ |
    ⟨noPhrase, visible, endsBefore⟩ := isToken.kinds
  · exact .phrase closed
  · exact .signed isSign closed
  · refine .word (fun opens => ?_) (longestWord_append (List.forall_mem_singleton.mpr rfl) ends)
    rcases opens.quote with here | behind
    · cases here
    · exact notQuote behind
  · refine .word (fun opens => noPhrase ?_) (longestWord_append visible ends)
    obtain ⟨_, behind, isClosed⟩ := (opensPhrase_iff _).mp opens
    obtain ⟨inner, behindToken, rfl⟩ := behind.of_append notEmpty notQuote
    rw [closes_append inner ends, closes_spaced, ← closes_append inner endsBefore] at isClosed
    exact (opensPhrase_iff _).mpr ⟨_, behindToken.append rest, isClosed⟩

theorem ofLowered_spaced (text : List Char) :
    ofLowered (spaced (ofLowered text)) = ofLowered text := by
  fun_induction ofLowered text with
  | case1 => exact ofLowered_nil
  | case2 text token unread found ih =>
    obtain ⟨gap, -, rfl, notEmpty, isToken⟩ := (next?_eq_some_iff text token unread).mp found
    calc ofLowered (spaced (token :: ofLowered unread))
        = ofLowered (token ++ spaced (ofLowered unread)) :=
          @ofLowered_gap [' '] (List.forall_mem_singleton.mpr rfl) _
      _ = token :: ofLowered (spaced (ofLowered unread)) :=
          ofLowered_token notEmpty (isToken.spaced notEmpty)
      _ = token :: ofLowered unread := congrArg (token :: ·) ih

theorem ofLowered_intercalate (text : List Char) :
    ofLowered ([' '].intercalate (ofLowered text)) = ofLowered text := by
  have again := ofLowered_spaced text
  cases tokens : ofLowered text with
  | nil => exact ofLowered_nil
  | cons token others =>
    rw [tokens, spaced_cons] at again
    rw [intercalate_cons_eq_spaced]
    exact (@ofLowered_gap [' '] (List.forall_mem_singleton.mpr rfl) _).symm.trans again

/-!
## Two texts with a blank between them
-/

/-- A token that leaves no quote open stays a token when something comes behind a blank. -/
theorem TokenAt.append_blank {token rest : List Char} (notEmpty : token ≠ [])
    (isToken : TokenAt (token ++ rest) token) (notOpen : ¬ IsUnclosed token) {c : Char}
    (blank : isBlank c = true) (more : List Char) :
    TokenAt (token ++ (rest ++ c :: more)) token := by
  obtain closed | ⟨sign, phrase, isSign, closed, rfl⟩ | ⟨rfl, phrase, later, closed, rfl⟩ |
    ⟨noPhrase, visible, endsBefore⟩ := isToken.kinds
  · exact .phrase closed
  · exact .signed isSign closed
  · rw [List.append_assoc]
    exact @TokenAt.question phrase _ closed
  · have ends : ∀ d, (rest ++ c :: more).head? = some d → isBlank d = true := by
      intro d first
      cases rest with
      | nil =>
        cases first
        exact blank
      | cons e later => exact endsBefore d first
    refine .word (fun opens => notOpen ?_) (longestWord_append visible ends)
    have notQuote : (rest ++ c :: more).head? ≠ some '"' := by
      intro first
      cases ends '"' first
    obtain ⟨_, behind, -⟩ := (opensPhrase_iff _).mp opens
    obtain ⟨inner, behindToken, -⟩ := behind.of_append notEmpty notQuote
    exact ⟨⟨inner, behindToken⟩, fun opensAlone => noPhrase (opensAlone.append rest)⟩

theorem ofLowered_append_blank {text : List Char} (noneOpen : ∀ token ∈ ofLowered text,
    ¬ IsUnclosed token) {c : Char} (blank : isBlank c = true) (more : List Char) :
    ofLowered (text ++ c :: more) = ofLowered text ++ ofLowered more := by
  fun_induction ofLowered text with
  | case1 text nothing =>
    have allBlank : ∀ d ∈ text ++ [c], isBlank d = true := by
      rw [List.forall_mem_append, List.forall_mem_singleton]
      exact ⟨(next?_eq_none_iff text).mp nothing, blank⟩
    rw [List.append_cons]
    exact ofLowered_gap allBlank more
  | case2 text token unread found ih =>
    obtain ⟨gap, inGap, rfl, notEmpty, isToken⟩ := (next?_eq_some_iff text token unread).mp found
    obtain ⟨notOpen, laterNotOpen⟩ := List.forall_mem_cons.mp noneOpen
    calc ofLowered (gap ++ (token ++ unread) ++ c :: more)
        = ofLowered (gap ++ (token ++ (unread ++ c :: more))) := by simp only [List.append_assoc]
      _ = ofLowered (token ++ (unread ++ c :: more)) := ofLowered_gap inGap _
      _ = token :: ofLowered (unread ++ c :: more) :=
          ofLowered_token notEmpty (isToken.append_blank notEmpty notOpen blank more)
      _ = token :: (ofLowered unread ++ ofLowered more) :=
          congrArg (token :: ·) (ih laterNotOpen)

theorem isLower_of_mem_ofLowered {text token : List Char}
    (member : token ∈ ofLowered (lower text)) : ∀ c ∈ token, IsLower c := by
  obtain ⟨-, -, within⟩ := tokenAt_of_mem member
  exact fun c inToken => isLower_of_mem_lowerAfter (within c inToken)

theorem map_toList_tokenize (search : String) :
    (tokenize search).map String.toList = ofLowered (lower search.toList) := by
  simp [tokenize]

/-- Tokens that are joined with spaces are the same tokens again, and texts that are joined with a
space have the tokens of both, unless the first of them leaves a quote open. -/
theorem tokenize_joined :
    (∀ search, tokenize (" ".intercalate (tokenize search)) = tokenize search) ∧
    ∀ first second : String, (∀ token ∈ tokenize first, ¬ IsUnclosed token.toList) →
      tokenize (first ++ " " ++ second) = tokenize first ++ tokenize second := by
  constructor
  · intro search
    have small : ∀ c ∈ [' '].intercalate (ofLowered (lower search.toList)), IsLower c :=
      Term.isLower_of_mem_intercalate fun token member => isLower_of_mem_ofLowered member
    have joined : (" ".intercalate (tokenize search)).toList =
        [' '].intercalate (ofLowered (lower search.toList)) := by
      rw [String.toList_intercalate, map_toList_tokenize]
      rfl
    rw [tokenize, joined, (lower_eq_self_iff _).mpr small, ofLowered_intercalate]
    rfl
  · intro first second noneOpen
    have noneOpen : ∀ token ∈ ofLowered (lower first.toList), ¬ IsUnclosed token := by
      rw [← map_toList_tokenize]
      exact List.forall_mem_map.mpr noneOpen
    have whole : (first ++ " " ++ second).toList = first.toList ++ ' ' :: second.toList := by
      simp
    rw [tokenize, whole, lower_append_space, ofLowered_append_blank noneOpen rfl, List.map_append]
    rfl

theorem tokenize_joined_backslash_and_quote :
    let first := "+\"A b\"c ?\"d\" e\"f\\"
    let second := "\" \"g h"
    (∀ token ∈ tokenize first, ¬ IsUnclosed token.toList) ∧
      tokenize (" ".intercalate (tokenize first)) = tokenize first ∧
      tokenize (first ++ " " ++ second) = tokenize first ++ tokenize second := by
  intro first second
  have tokens : tokenize first = ["+\"a b\"", "c", "?", "\"d\"", "e\"f\\"] := by
    decide +kernel
  have noneOpen : ∀ token ∈ tokenize first, ¬ IsUnclosed token.toList := by
    rw [tokens]
    decide
  exact ⟨noneOpen, tokenize_joined.1 first, tokenize_joined.2 first second noneOpen⟩

/-- A quote that the first text leaves open may be closed in the second one. -/
example : tokenize ("\"a" ++ " " ++ "b\"") = ["\"a b\""] ∧
    tokenize "\"a" ++ tokenize "b\"" = ["\"a", "b\""] := by
  constructor <;> decide +kernel

end SearchQuery.Token
