import SearchQuery.Proofs.Token.Decomposition
import SearchQuery.Term.Extract

/-!
# What a token stands for

A token becomes a term unless nothing but blanks is left of it, and which term it becomes is read off
its marker and its body (`ofToken_eq_ok_iff`). Every character of the word is a character of the
token. A token of a search text has no blanks at its ends, and if it has any inside, it is a phrase
(`TokenAt.visible_of_not_quoted`).
-/

set_option autoImplicit false

namespace SearchQuery.Term

open SearchQuery.Text SearchQuery.Token

/-!
## Markers and bodies
-/

theorem splitMarker_suffix (text : List Char) : (splitMarker text).2 <:+ text := by
  cases text with
  | nil => exact List.suffix_refl []
  | cons c rest =>
    simp only [splitMarker]
    split
    · exact List.suffix_cons c rest
    · exact List.suffix_refl _

theorem splitMarker_polarity (text : List Char) :
    (splitMarker text).1 =
      if text.head? = some '+' then .must
      else if text.head? = some '-' then .mustNot
      else .should := by
  cases text with
  | nil => rfl
  | cons c rest =>
    simp only [splitMarker, List.head?_cons, Option.some.injEq]
    by_cases plus : c = '+'
    · rw [if_pos plus, plus]
      rfl
    · by_cases minus : c = '-'
      · rw [if_neg plus, if_pos minus, minus]
        rfl
      · rw [if_neg plus, if_neg minus]
        by_cases question : c = '?'
        · rw [question]
          rfl
        · rw [Polarity.ofMarker?.eq_4 c plus minus question]

theorem unescape_cons_plain {c : Char} (plain : c ≠ '\\') (rest : List Char) :
    unescape (c :: rest) = c :: unescape rest :=
  unescape.eq_3 c rest fun _ _ same _ => plain same

theorem mem_of_mem_unescape {text : List Char} {c : Char} (member : c ∈ unescape text) :
    c ∈ text := by
  fun_induction unescape text with
  | case1 => exact member
  | case2 first rest ih =>
    rcases List.mem_cons.mp member with rfl | later
    · exact List.mem_cons_of_mem _ List.mem_cons_self
    · exact List.mem_cons_of_mem _ (List.mem_cons_of_mem _ (ih later))
  | case3 first rest _ ih =>
    rcases List.mem_cons.mp member with rfl | later
    · exact List.mem_cons_self
    · exact List.mem_cons_of_mem _ (ih later)

theorem readBody_phrase {phrase : List Char} (closed : ClosedPhrase phrase) :
    readBody phrase = (.phrase, unescape (phrase.drop 1).dropLast) := by
  rw [readBody, if_pos ((isQuoted_iff phrase).mpr closed)]

theorem readBody_fuzzy {body : List Char} (notClosed : ¬ ClosedPhrase body) :
    readBody body = (.fuzzy, body.filter (· != '"')) := by
  rw [readBody, if_neg fun quoted => notClosed ((isQuoted_iff body).mp quoted)]

theorem mem_of_mem_readBody {body : List Char} {c : Char} (member : c ∈ (readBody body).2) :
    c ∈ body := by
  unfold readBody at member
  split at member
  · exact List.mem_of_mem_drop ((List.dropLast_prefix _).subset (mem_of_mem_unescape member))
  · exact (List.mem_filter.mp member).1

/-!
## The term of a token
-/

def tokenBody (token : List Char) : List Char :=
  (splitMarker (trim token)).2

theorem ofWord_ofList (word : List Char) (polarity : Polarity) (mode : MatchMode) :
    ofWord (String.ofList word) polarity mode =
      if trim word = [] then .error ⟨String.ofList word⟩
      else .ok ⟨String.ofList (trim word), polarity, mode⟩ := by
  rw [ofWord, trimmed, String.toList_ofList]

theorem ofToken_eq_ok_iff (token : String) (term : Term) :
    ofToken token = .ok term ↔
      trim (readBody (tokenBody token.toList)).2 ≠ [] ∧
        term = ⟨String.ofList (trim (readBody (tokenBody token.toList)).2),
          (splitMarker (trim token.toList)).1, (readBody (tokenBody token.toList)).1⟩ := by
  simp only [ofToken, tokenBody, ofWord_ofList]
  by_cases empty : trim (readBody (splitMarker (trim token.toList)).2).2 = []
  · rw [if_pos empty]
    simp [empty]
  · rw [if_neg empty]
    simp only [Except.ok.injEq, ne_eq, empty, not_false_eq_true, true_and]
    exact eq_comm

theorem ofToken_eq_error {token : String} {error : EmptyToken}
    (read : ofToken token = .error error) : error = ⟨token⟩ := by
  simp only [ofToken] at read
  split at read
  · cases read
  · exact (Except.error.inj read).symm

theorem known_of_token {token : String} {term : Term} (read : ofToken token = .ok term) :
    term.polarity ∈ [Polarity.must, .should, .mustNot] := by
  obtain ⟨_, rfl⟩ := (ofToken_eq_ok_iff token term).mp read
  rw [splitMarker_polarity]
  split
  · exact List.mem_cons_self
  · split
    · exact List.mem_cons_of_mem _ (List.mem_cons_of_mem _ List.mem_cons_self)
    · exact List.mem_cons_of_mem _ List.mem_cons_self

theorem mem_token_of_mem_word {token : String} {term : Term} (read : ofToken token = .ok term)
    {c : Char} (member : c ∈ term.word.toList) : c ∈ token.toList := by
  obtain ⟨_, rfl⟩ := (ofToken_eq_ok_iff token term).mp read
  rw [String.toList_ofList] at member
  have inBody := mem_of_mem_readBody (mem_of_mem_trim member)
  exact mem_of_mem_trim ((splitMarker_suffix _).subset inBody)

end SearchQuery.Term

namespace SearchQuery.Token

open SearchQuery.Text
open SearchQuery.Term (splitMarker)

/-!
## Tokens of a search text
-/

theorem tokenAt_of_mem {text token : List Char} (member : token ∈ ofLowered text) :
    token ≠ [] ∧ (∃ rest, TokenAt (token ++ rest) token) ∧ ∀ c ∈ token, c ∈ text := by
  fun_induction ofLowered text with
  | case1 => cases member
  | case2 text first unread found ih =>
    obtain ⟨gap, _, rfl, notEmpty, isToken⟩ := (next?_eq_some_iff text first unread).mp found
    rcases List.mem_cons.mp member with rfl | later
    · refine ⟨notEmpty, ⟨unread, isToken⟩, fun c inToken => ?_⟩
      exact List.mem_append_right _ (List.mem_append_left _ inToken)
    · obtain ⟨laterNotEmpty, laterIsToken, within⟩ := ih later
      refine ⟨laterNotEmpty, laterIsToken, fun c inToken => ?_⟩
      exact List.mem_append_right _ (List.mem_append_right _ (within c inToken))

theorem TokenAt.trim_eq {token rest : List Char} (isToken : TokenAt (token ++ rest) token)
    (notEmpty : token ≠ []) : trim token = token := by
  refine trim_of_visibleEnds ⟨fun c first => ?_, isToken.last_visible⟩
  refine isToken.head_visible notEmpty c ?_
  rw [List.head?_append, first]
  rfl

/-- A token whose body is no phrase has no blank in it. -/
theorem TokenAt.visible_of_not_quoted {text token : List Char} (isToken : TokenAt text token)
    (notQuoted : ¬ ClosedPhrase (splitMarker token).2) : ∀ c ∈ token, isBlank c = false := by
  cases isToken with
  | phrase closed =>
    have unmarked : (splitMarker token).2 = token := by
      obtain ⟨body, _, rfl⟩ := closed
      rfl
    rw [unmarked] at notQuoted
    exact absurd closed notQuoted
  | signed isSign closed =>
    rcases isSign with rfl | rfl <;> exact absurd closed notQuoted
  | question _ =>
    intro c member
    rw [List.mem_singleton.mp member]
    rfl
  | word _ longest => exact longest.visible

end SearchQuery.Token

namespace SearchQuery.Term

open SearchQuery.Token

/-!
## Terms of a search text
-/

theorem value_extract_eq_ok_iff (search : String) (terms : List Term) :
    (extract search).value = .ok terms ↔
      terms ≠ [] ∧
        terms = (tokenize search).filterMap fun token => (ofToken token).toOption := by
  simp only [extract, Reported.value_bind, Reported.value_pure, value_ofTokens]
  split
  · rename_i none
    rw [none]
    simp
  · rename_i some
    constructor
    · intro found
      cases found
      exact ⟨some, rfl⟩
    · intro parts
      obtain ⟨_, rfl⟩ := parts
      rfl

theorem mem_of_extract {search : String} {terms : List Term}
    (found : (extract search).value = .ok terms) {term : Term} :
    term ∈ terms ↔ ∃ token ∈ tokenize search, ofToken token = .ok term := by
  rw [((value_extract_eq_ok_iff search terms).mp found).2, List.mem_filterMap]
  constructor
  · intro parts
    obtain ⟨token, member, isTerm⟩ := parts
    cases read : ofToken token with
    | error error =>
      rw [read] at isTerm
      cases isTerm
    | ok term =>
      rw [read] at isTerm
      cases isTerm
      exact ⟨token, member, read⟩
  · intro parts
    obtain ⟨token, member, read⟩ := parts
    exact ⟨token, member, by rw [read]; rfl⟩

end SearchQuery.Term
