import SearchQuery.Proofs.Text.Blank
import SearchQuery.Proofs.Token.Branch

/-!
# The grammar of tokens

A text is cut in exactly one way into tokens and the gaps between them. A gap is a run of blanks that
cannot be made longer. Which token starts where a gap ends is a relation between a text and its
start, and does not refer to the reader: a closed phrase, a closed phrase with a sign in front, a
question mark in front of a closed phrase, or else the longest start without a blank.

The reader decides this relation (`tokenAt_readToken`, `TokenAt.eq_readToken`).
-/

set_option autoImplicit false

namespace SearchQuery.Token

open SearchQuery.Text

/-- The longest start of a text that has no blank. -/
structure LongestWord (word text : List Char) : Prop where
  starts : word <+: text
  visible : ∀ c ∈ word, isBlank c = false
  longest : ∀ other, other <+: text → (∀ c ∈ other, isBlank c = false) →
    other.length ≤ word.length

/-- The token that a text starts with. -/
inductive TokenAt : List Char → List Char → Prop where
  | phrase {phrase rest : List Char} :
      ClosedPhrase phrase → TokenAt (phrase ++ rest) phrase
  | signed {sign : Char} {phrase rest : List Char} :
      sign = '+' ∨ sign = '-' → ClosedPhrase phrase →
      TokenAt (sign :: (phrase ++ rest)) (sign :: phrase)
  | question {phrase rest : List Char} :
      ClosedPhrase phrase → TokenAt ('?' :: (phrase ++ rest)) ['?']
  | word {text word : List Char} :
      ¬ OpensPhrase text → LongestWord word text → TokenAt text word

/-- A run of blanks, possibly empty, with no blank directly before or after it. -/
structure MaximalGap (before gap after : List Char) : Prop where
  blank : ∀ c ∈ gap, isBlank c = true
  noneBefore : ∀ c, before.getLast? = some c → isBlank c = false
  noneAfter : ∀ c, after.head? = some c → isBlank c = false

/-- A text that stands directly after another one is made up of gaps and tokens in turn, a gap first
and a gap last. -/
inductive Decomposition :
    (before text : List Char) → (gaps tokens : List (List Char)) → Prop where
  | last {before gap : List Char} :
      MaximalGap before gap [] → Decomposition before gap [gap] []
  | token {before gap token rest : List Char} {gaps tokens : List (List Char)} :
      MaximalGap before gap (token ++ rest) → token ≠ [] → TokenAt (token ++ rest) token →
      Decomposition token rest gaps tokens →
      Decomposition before (gap ++ (token ++ rest)) (gap :: gaps) (token :: tokens)

/-!
## The token at the start of a text
-/

theorem LongestWord.eq_takeWhile {word text : List Char} (longest : LongestWord word text) :
    word = text.takeWhile (!isBlank ·) := by
  have visible : ∀ c ∈ word, (!isBlank c) = true := by
    intro c member
    rw [longest.visible c member]
    rfl
  obtain ⟨rest, rfl⟩ := longest.starts
  have taken := longest.longest ((word ++ rest).takeWhile (!isBlank ·)) (List.takeWhile_prefix _)
    (fun c member => by simpa using List.mem_takeWhile_imp member)
  rw [List.takeWhile_append_of_pos visible] at taken ⊢
  exact (List.prefix_append word _).eq_of_length_le taken

theorem longestWord_takeWhile (text : List Char) :
    LongestWord (text.takeWhile (!isBlank ·)) text where
  starts := List.takeWhile_prefix _
  visible c member := by simpa using List.mem_takeWhile_imp member
  longest other starts visible := by
    obtain ⟨rest, rfl⟩ := starts
    rw [List.takeWhile_append_of_pos (fun c member => by simp [visible c member])]
    simp

theorem longestWord_append {word rest : List Char} (visible : ∀ c ∈ word, isBlank c = false)
    (ends : ∀ c, rest.head? = some c → isBlank c = true) : LongestWord word (word ++ rest) := by
  have longest := longestWord_takeWhile (word ++ rest)
  rw [List.takeWhile_append_of_pos (fun c member => by simp [visible c member])] at longest
  cases rest with
  | nil => simpa using longest
  | cons c more => simpa [ends c rfl] using longest

theorem OpensPhrase.quote {text : List Char} (opens : OpensPhrase text) :
    text.head? = some '"' ∨ text.tail.head? = some '"' := by
  obtain ⟨phrase, closed, ⟨rest, rfl⟩ | ⟨marker, _, rest, rfl⟩⟩ := opens
  · rw [List.head?_append, closed.head?]
    exact .inl rfl
  · rw [List.cons_append, List.tail_cons, List.head?_append, closed.head?]
    exact .inr rfl

theorem tokenAt_readToken (text : List Char) : TokenAt text (readToken text).1 := by
  by_cases opens : OpensPhrase text
  · obtain ⟨phrase, closed, ⟨rest, rfl⟩ | ⟨marker, isMarker, rest, rfl⟩⟩ := opens
    · rw [readToken_closed closed]
      exact .phrase closed
    · rw [List.cons_append]
      simp only [List.mem_cons, List.not_mem_nil, or_false] at isMarker
      rcases isMarker with rfl | rfl | rfl
      · rw [readToken_signed (.inl rfl) closed]
        exact .signed (.inl rfl) closed
      · rw [readToken_signed (.inr rfl) closed]
        exact .signed (.inr rfl) closed
      · rw [readToken_question closed]
        exact .question closed
  · rw [readToken_word opens]
    exact .word opens (longestWord_takeWhile text)

theorem TokenAt.eq_readToken {text token : List Char} (read : TokenAt text token) :
    (readToken text).1 = token := by
  cases read with
  | phrase closed => rw [readToken_closed closed]
  | signed isSign closed => rw [readToken_signed isSign closed]
  | question closed => rw [readToken_question closed]
  | word noPhrase longest =>
    rw [readToken_word noPhrase]
    exact longest.eq_takeWhile.symm

theorem TokenAt.readToken_eq {token rest : List Char} (read : TokenAt (token ++ rest) token) :
    readToken (token ++ rest) = (token, rest) := by
  have whole := readToken_append (token ++ rest)
  rw [read.eq_readToken] at whole
  exact Prod.ext read.eq_readToken (List.append_cancel_left whole)

theorem TokenAt.head_visible {text token : List Char} (read : TokenAt text token)
    (notEmpty : token ≠ []) (c : Char) (first : text.head? = some c) : isBlank c = false := by
  cases read with
  | phrase closed =>
    rw [List.head?_append, closed.head?] at first
    cases first
    rfl
  | signed isSign _ =>
    cases first
    rcases isSign with rfl | rfl <;> rfl
  | question _ =>
    cases first
    rfl
  | word _ longest =>
    obtain ⟨rest, rfl⟩ := longest.starts
    cases token with
    | nil => exact absurd rfl notEmpty
    | cons d word =>
      cases first
      exact longest.visible c List.mem_cons_self

theorem TokenAt.last_visible {text token : List Char} (read : TokenAt text token) (c : Char)
    (last : token.getLast? = some c) : isBlank c = false := by
  cases read with
  | phrase closed =>
    rw [closed.getLast?] at last
    cases last
    rfl
  | signed _ closed =>
    rw [List.getLast?_cons, closed.getLast?] at last
    cases last
    rfl
  | question _ =>
    cases last
    rfl
  | word _ longest => exact longest.visible c (List.mem_of_getLast? last)

/-!
## The next token of a text
-/

theorem next?_eq_none_iff (text : List Char) :
    next? text = none ↔ ∀ c ∈ text, isBlank c = true := by
  rw [← List.dropWhile_eq_nil_iff]
  unfold next?
  constructor
  · intro nothing
    split at nothing
    · assumption
    · cases nothing
  · intro blank
    rw [show trimStart text = [] from blank]

/-- The next token stands behind a gap, and reading goes on directly behind it. -/
theorem next?_eq_some_iff (text token unread : List Char) :
    next? text = some (token, unread) ↔
      ∃ gap, (∀ c ∈ gap, isBlank c = true) ∧ text = gap ++ (token ++ unread) ∧ token ≠ [] ∧
        TokenAt (token ++ unread) token := by
  constructor
  · intro found
    obtain ⟨gap, blank, whole⟩ := exists_gap text
    obtain ⟨someLeft, read⟩ := next?_eq_some_readToken found
    obtain ⟨c, rest, start⟩ := List.exists_cons_of_ne_nil someLeft
    have visible : isBlank c = false := head?_trimStart (by rw [start]; rfl)
    have split := readToken_append (trimStart text)
    have notEmpty := readToken_ne_nil c rest visible
    have isToken := tokenAt_readToken (trimStart text)
    rw [← start, read] at notEmpty
    rw [read] at split isToken
    exact ⟨gap, blank, by rw [split]; exact whole, notEmpty, by rw [split]; exact isToken⟩
  · intro parts
    obtain ⟨gap, blank, rfl, notEmpty, isToken⟩ := parts
    unfold next?
    rw [trimStart_append blank, trimStart_of_visible (isToken.head_visible notEmpty)]
    obtain ⟨c, rest, whole⟩ := List.exists_cons_of_ne_nil
      (List.append_ne_nil_of_left_ne_nil notEmpty unread)
    have read := isToken.readToken_eq
    rw [whole] at read ⊢
    simp only [read]

theorem ofLowered_eq (text : List Char) :
    ofLowered text =
      match next? text with
      | none => []
      | some (token, unread) => token :: ofLowered unread := by
  rw [ofLowered]
  split <;> rename_i found <;> rw [found]

theorem ofLowered_blank {gap : List Char} (blank : ∀ c ∈ gap, isBlank c = true) :
    ofLowered gap = [] := by
  rw [ofLowered_eq, (next?_eq_none_iff gap).mpr blank]

theorem ofLowered_nil : ofLowered [] = [] :=
  ofLowered_blank (by simp)

theorem ofLowered_gap {gap : List Char} (blank : ∀ c ∈ gap, isBlank c = true)
    (text : List Char) : ofLowered (gap ++ text) = ofLowered text := by
  rw [ofLowered_eq, ofLowered_eq text]
  simp only [next?, trimStart_append blank]

theorem ofLowered_token {token rest : List Char} (notEmpty : token ≠ [])
    (isToken : TokenAt (token ++ rest) token) :
    ofLowered (token ++ rest) = token :: ofLowered rest := by
  have next := (next?_eq_some_iff (token ++ rest) token rest).mpr
    ⟨[], by simp, rfl, notEmpty, isToken⟩
  rw [ofLowered_eq, next]

/-!
## The tokens of a text
-/

theorem exists_decomposition (before text : List Char)
    (visible : ∀ c, before.getLast? = some c → isBlank c = false) :
    ∃ gaps, Decomposition before text gaps (ofLowered text) := by
  fun_induction ofLowered text generalizing before with
  | case1 text nothing =>
    have blank := (next?_eq_none_iff text).mp nothing
    exact ⟨[text], .last ⟨blank, visible, by simp⟩⟩
  | case2 text token unread found ih =>
    obtain ⟨gap, blank, rfl, notEmpty, isToken⟩ := (next?_eq_some_iff text token unread).mp found
    obtain ⟨gaps, others⟩ := ih token isToken.last_visible
    exact ⟨gap :: gaps,
      .token ⟨blank, visible, isToken.head_visible notEmpty⟩ notEmpty isToken others⟩

theorem MaximalGap.unique {before gap other after otherAfter : List Char}
    (maximal : MaximalGap before gap after) (otherMaximal : MaximalGap before other otherAfter)
    (same : gap ++ after = other ++ otherAfter) : gap = other ∧ after = otherAfter := by
  have trimmed : after = otherAfter := by
    have starts := congrArg trimStart same
    rw [trimStart_append maximal.blank, trimStart_append otherMaximal.blank,
      trimStart_of_visible maximal.noneAfter, trimStart_of_visible otherMaximal.noneAfter] at starts
    exact starts
  subst trimmed
  exact ⟨List.append_cancel_right same, rfl⟩

theorem Decomposition.unique {before text : List Char} {gaps tokens otherGaps otherTokens}
    (first : Decomposition before text gaps tokens)
    (second : Decomposition before text otherGaps otherTokens) :
    otherGaps = gaps ∧ otherTokens = tokens := by
  induction first generalizing otherGaps otherTokens with
  | @last before gap maximal =>
    generalize whole : gap = text at second
    cases second with
    | last _ => exact ⟨rfl, rfl⟩
    | token otherMaximal notEmpty _ _ =>
      have same := maximal.unique otherMaximal (by rw [List.append_nil, whole])
      have nothing := (List.append_eq_nil_iff.mp same.2.symm).1
      exact absurd nothing notEmpty
  | @token before gap token rest gaps tokens maximal notEmpty isToken _ ih =>
    generalize whole : gap ++ (token ++ rest) = text at second
    cases second with
    | last otherMaximal =>
      have same := otherMaximal.unique maximal (by rw [List.append_nil, whole])
      have nothing := (List.append_eq_nil_iff.mp same.2.symm).1
      exact absurd nothing notEmpty
    | @token _ _ otherToken otherRest _ _ otherMaximal _ otherIsToken others =>
      obtain ⟨rfl, unread⟩ := otherMaximal.unique maximal whole.symm
      -- One text has one token at its start, so what follows the token is the same, too.
      have sameToken : otherToken = token := by
        rw [← otherIsToken.eq_readToken, unread, isToken.eq_readToken]
      subst sameToken
      have sameRest : otherRest = rest := List.append_cancel_left unread
      subst sameRest
      obtain ⟨rfl, rfl⟩ := ih others
      exact ⟨rfl, rfl⟩

theorem Decomposition.length_gaps {before text : List Char} {gaps tokens : List (List Char)}
    (decomposed : Decomposition before text gaps tokens) : gaps.length = tokens.length + 1 := by
  induction decomposed with
  | last _ => rfl
  | token _ _ _ _ ih => rw [List.length_cons, List.length_cons, ih]

theorem Decomposition.flatten {before text : List Char} {gaps tokens : List (List Char)}
    (decomposed : Decomposition before text gaps tokens) :
    (List.zipWith (· ++ ·) gaps (tokens ++ [[]])).flatten = text := by
  induction decomposed with
  | last _ => simp
  | token _ _ _ _ ih =>
    rw [List.cons_append, List.zipWith_cons_cons, List.flatten_cons, ih, List.append_assoc]

/-- The tokens of a search text are those of the only decomposition of its lower-cased form, and
nothing of that form is lost. Every token that is read uses up some of the text, and all that is
passed over before it, or at the end, is blank. -/
theorem tokenize_unique_decomposition (search : String) :
    (∃ gaps tokens, Decomposition [] (lower search.toList) gaps tokens ∧
      tokenize search = tokens.map String.ofList ∧
      gaps.length = tokens.length + 1 ∧
      (List.zipWith (· ++ ·) gaps (tokens ++ [[]])).flatten = lower search.toList ∧
      ∀ otherGaps otherTokens,
        Decomposition [] (lower search.toList) otherGaps otherTokens →
          otherGaps = gaps ∧ otherTokens = tokens) ∧
    (∀ text token unread, next? text = some (token, unread) →
      token ≠ [] ∧ unread.length < text.length ∧
        ∃ gap, (∀ c ∈ gap, isBlank c = true) ∧ text = gap ++ (token ++ unread)) ∧
    (∀ text, next? text = none ↔ ∀ c ∈ text, isBlank c = true) := by
  refine ⟨?_, ?_, next?_eq_none_iff⟩
  · obtain ⟨gaps, decomposed⟩ := exists_decomposition [] (lower search.toList) (by simp)
    exact ⟨gaps, ofLowered (lower search.toList), decomposed, rfl, decomposed.length_gaps,
      decomposed.flatten, fun _ _ other => decomposed.unique other⟩
  · intro text token unread found
    obtain ⟨gap, blank, whole, notEmpty, _⟩ := (next?_eq_some_iff text token unread).mp found
    exact ⟨notEmpty, length_next?_lt found, gap, blank, whole⟩

/-- Tokens may touch, and a backslash takes a quote along. -/
example : tokenize "+\"a\\\" B\"c ?\"d\"\"e\"" =
    ["+\"a\\\" b\"", "c", "?", "\"d\"", "\"e\""] := by
  decide +kernel

end SearchQuery.Token
