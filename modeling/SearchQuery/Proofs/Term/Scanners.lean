import SearchQuery.Proofs.Term.BlankToken
import SearchQuery.Proofs.Text.Slice
import SearchQuery.Term.Bytes

/-!
# The scanners of phrases agree

Three scanners look for the quote that closes a phrase: the lookahead of the tokens, the reader of
the tokens, and the test of a token that is to become a term. All of them find the closed phrase that
a text starts with. So a token becomes a phrase exactly when it has been read as one
(`branch_readsPhrase_iff`, `readAsPhrase_iff`), and a phrase is never searched for as a word.

The test of a token can be made by byte offsets, and so can the parts of the token be taken out.
The offsets lie between characters, whatever the token is (`ofTokenByBytes?_eq`).
-/

set_option autoImplicit false

namespace SearchQuery.Term

open SearchQuery.Text SearchQuery.Token

/-!
## Tokens by byte offsets
-/

theorem endsWithQuoteByBytes_eq {size offset : Nat} {text : List Char}
    (whole : size = offset + (String.ofList text).utf8ByteSize) :
    endsWithQuoteByBytes size offset text = endsWithQuote text := by
  fun_induction endsWithQuote text generalizing offset with
  | case1 => rfl
  | case2 rest =>
    rw [utf8ByteSize_ofList_cons, show '"'.utf8Size = 1 from rfl] at whole
    have last : offset + 1 = size ↔ rest = [] := by
      rw [← String.ofList_eq_empty_iff, ← String.utf8ByteSize_eq_zero_iff]
      omega
    rw [endsWithQuoteByBytes, Bool.eq_iff_iff, beq_iff_eq, List.isEmpty_iff, last]
  | case3 c rest ih =>
    rw [utf8ByteSize_ofList_cons, utf8ByteSize_ofList_cons] at whole
    exact ih (by omega)
  | case4 c rest notQuote notEscape ih =>
    rw [utf8ByteSize_ofList_cons] at whole
    rw [endsWithQuoteByBytes.eq_4 _ _ _ _ notQuote notEscape]
    exact ih (by omega)

theorem isQuotedByBytes_eq (text : String) : isQuotedByBytes text = isQuoted text.toList := by
  rw [isQuotedByBytes]
  generalize text.toList = chars
  split
  · exact endsWithQuoteByBytes_eq (Nat.zero_add _).symm
  · rename_i notQuoted
    rw [isQuoted.eq_2 _ notQuoted]

theorem utf8Size_of_ofMarker? {c : Char} {polarity : Polarity}
    (isMarker : Polarity.ofMarker? c = some polarity) : c.utf8Size = 1 := by
  unfold Polarity.ofMarker? at isMarker
  split at isMarker
  · rfl
  · rfl
  · rfl
  · cases isMarker

theorem splitMarkerByBytes?_eq (token : List Char) :
    splitMarkerByBytes? (String.ofList token) =
      some ((splitMarker token).1, String.ofList (splitMarker token).2) := by
  rw [splitMarkerByBytes?, String.toList_ofList]
  cases token with
  | nil => rfl
  | cons c rest =>
    rw [List.head?_cons, Option.bind_some, splitMarker]
    cases isMarker : Polarity.ofMarker? c with
    | none => rfl
    | some polarity =>
      have cut : slice? (String.ofList (c :: rest)) 1 (String.ofList (c :: rest)).utf8ByteSize =
          some (String.ofList rest) := by
        refine (slice?_eq_some_iff _ _ _ _).mpr ⟨String.singleton c, "", ?_, ?_, ?_⟩
        · rw [String.ofList_cons, String.append_empty]
        · rw [String.utf8ByteSize_singleton, utf8Size_of_ofMarker? isMarker]
        · rw [String.ofList_cons]
      simp only [cut]
      rfl

theorem slice?_phrase (body : List Char) :
    slice? (String.ofList ('"' :: (body ++ ['"']))) 1
        ((String.ofList ('"' :: (body ++ ['"']))).utf8ByteSize - 1) =
      some (String.ofList body) := by
  have whole : String.ofList ('"' :: (body ++ ['"'])) = "\"" ++ String.ofList body ++ "\"" := by
    simp [← String.toList_inj]
  have last : ("\"" ++ String.ofList body ++ "\"").utf8ByteSize - 1 =
      ("\"" ++ String.ofList body).utf8ByteSize := by
    rw [String.utf8ByteSize_append, show "\"".utf8ByteSize = 1 from rfl, Nat.add_sub_cancel]
  rw [whole, last]
  exact (slice?_eq_some_iff _ _ _ _).mpr ⟨"\"", "\"", rfl, rfl, rfl⟩

theorem readBodyByBytes?_eq (body : List Char) :
    readBodyByBytes? (String.ofList body) =
      some ((readBody body).1, String.ofList (readBody body).2) := by
  rw [readBodyByBytes?, isQuotedByBytes_eq, String.toList_ofList]
  by_cases closed : ClosedPhrase body
  · rw [if_pos ((isQuoted_iff body).mpr closed), readBody_phrase closed]
    obtain ⟨inner, _, rfl⟩ := closed
    rw [slice?_phrase, List.drop_one, List.tail_cons, List.dropLast_concat, Option.map_some,
      String.toList_ofList]
  · rw [if_neg fun quoted => closed ((isQuoted_iff body).mp quoted), readBody_fuzzy closed]

/-- No part of a token is cut out inside a character, and the token is read as it is by
characters. -/
theorem ofTokenByBytes?_eq (token : String) : ofTokenByBytes? token = some (ofToken token) := by
  rw [ofTokenByBytes?, trimmed, splitMarkerByBytes?_eq]
  simp only [Option.bind_eq_bind, Option.bind_some, readBodyByBytes?_eq]
  rw [ofToken]
  split <;> rename_i read <;> simp only [read] <;> rfl

/-!
## Tokens read as phrases
-/

/-- A token is read as a phrase if its term is, or if it has no term and is a phrase with nothing
but blanks in it. -/
inductive ReadAsPhrase (token : String) : Prop where
  | term {term : Term} : ofToken token = .ok term → term.mode = .phrase → ReadAsPhrase token
  | blank {error : EmptyToken} {marker body : List Char} :
      ofToken token = .error error → marker ∈ [[], ['+'], ['-'], ['?']] → BlankBody body →
      token.toList = marker ++ '"' :: (body ++ ['"']) → ReadAsPhrase token

theorem readBody_mode_iff (body : List Char) :
    (readBody body).1 = .phrase ↔ ClosedPhrase body := by
  by_cases closed : ClosedPhrase body
  · simp [readBody_phrase closed, closed]
  · simp [readBody_fuzzy closed, closed]

theorem readAsPhrase_iff {token : String} (untrimmed : trim token.toList = token.toList) :
    ReadAsPhrase token ↔ ClosedPhrase (splitMarker token.toList).2 := by
  constructor
  · intro asPhrase
    cases asPhrase with
    | term read isPhrase =>
      obtain ⟨_, rfl⟩ := (ofToken_eq_ok_iff token _).mp read
      rw [tokenBody, untrimmed] at isPhrase
      exact (readBody_mode_iff _).mp isPhrase
    | @blank _ marker body _ isMarker blank whole =>
      have closed : ClosedPhrase ('"' :: (body ++ ['"'])) := ⟨body, blank.phraseBody, rfl⟩
      rw [whole, splitMarker_closed isMarker closed]
      exact closed
  · intro closed
    have parts := ofToken_eq_ok_iff token
    rw [tokenBody, untrimmed] at parts
    cases read : ofToken token with
    | ok term =>
      obtain ⟨_, rfl⟩ := (parts term).mp read
      exact .term read ((readBody_mode_iff _).mpr closed)
    | error error =>
      -- The error does not say how the token was read, which is found from the token instead.
      have nothing : trim (readBody (splitMarker token.toList).2).2 = [] := by
        by_contra some
        rw [(parts _).mpr ⟨some, rfl⟩] at read
        cases read
      obtain ⟨marker, isMarker, whole⟩ := exists_marker token.toList
      obtain ⟨body, valid, isPhrase⟩ := closed
      rw [isPhrase] at nothing whole
      exact .blank read isMarker ((blank_phrase_iff valid).mp nothing) whole

/-!
## Tokens of a search text
-/

/-- The reader takes a branch for phrases exactly when the body of the token is a phrase. -/
theorem branch_readsPhrase_iff (text : List Char) :
    (branch text).readsPhrase = true ↔ ClosedPhrase (splitMarker (readToken text).1).2 := by
  by_cases opens : OpensPhrase text
  · obtain ⟨phrase, closed, ⟨rest, rfl⟩ | ⟨marker, isMarker, rest, rfl⟩⟩ := opens
    · have body := @splitMarker_closed [] phrase (by simp) closed
      rw [List.nil_append] at body
      rw [branch_closed closed, readToken_closed closed, body]
      exact ⟨fun _ => closed, fun _ => rfl⟩
    · rw [List.cons_append]
      by_cases question : marker = '?'
      -- The token is the question mark alone, with no phrase behind it.
      · rw [question, branch_question closed, readToken_question closed]
        constructor
        · intro isPhrase
          cases isPhrase
        · intro isPhrase
          cases isPhrase.head?
      · have isSign : marker = '+' ∨ marker = '-' := by simpa [question] using isMarker
        have body := @splitMarker_closed [marker] phrase (by simpa using isMarker) closed
        rw [List.singleton_append] at body
        rw [branch_signed isSign closed, readToken_signed isSign closed, body]
        exact ⟨fun _ => closed, fun _ => rfl⟩
  · rw [branch_word opens]
    constructor
    · intro isPhrase
      cases isPhrase
    · intro closed
      exact absurd (opensPhrase_of_closed ⟨_, readToken_append text⟩ closed) opens

theorem phraseFollows_iff_isQuoted (text : List Char) :
    phraseFollows 0 text = true ↔ ∃ phrase, phrase <+: text ∧ isQuoted phrase = true := by
  rw [phraseFollows_iff, List.drop_zero]
  refine exists_congr fun phrase => ?_
  rw [isQuoted_iff, and_comm]

theorem readAsPhrase_iff_branch {search : String} {start : List Char}
    (isStart : start ∈ starts (lower search.toList)) :
    ReadAsPhrase (String.ofList (readToken start).1) ↔ (branch start).readsPhrase = true := by
  have member : (readToken start).1 ∈ ofLowered (lower search.toList) := by
    rw [ofLowered_eq_map]
    exact List.mem_map_of_mem isStart
  obtain ⟨notEmpty, ⟨rest, isToken⟩, _⟩ := tokenAt_of_mem member
  rw [readAsPhrase_iff, String.toList_ofList, branch_readsPhrase_iff]
  rw [String.toList_ofList, isToken.trim_eq notEmpty]

theorem readsPhrase_of_blank {start : List Char} {c : Char} (member : c ∈ (readToken start).1)
    (blank : isBlank c = true) : (branch start).readsPhrase = true := by
  rw [branch_readsPhrase_iff]
  by_contra notClosed
  have visible := (tokenAt_readToken start).visible_of_not_quoted notClosed c member
  rw [visible] at blank
  cases blank

/-- The scanners of phrases agree on every text. The lookahead says whether the text starts with a
phrase, in the sense of the test of a whole text, by characters or by bytes. There is only one such
phrase, and it is what the reader reads. No token is ever cut inside a character. A token of a search
text is a phrase exactly when it has been read by a branch for phrases, and only then can it have a
blank in it. -/
theorem phrase_scanners_agree :
    (∀ text : List Char,
      (phraseFollows 0 text = true ↔ ∃ phrase, phrase <+: text ∧ isQuoted phrase = true) ∧
      (∀ phrase rest, phrase ++ rest = text → isQuoted phrase = true →
        readPhrase text = (phrase, rest) ∧
          ∀ other, other <+: text → isQuoted other = true → other = phrase) ∧
      ∀ skip, phraseFollows skip text = phraseFollows 0 (text.drop skip)) ∧
    (∀ token : String,
      isQuotedByBytes token = isQuoted token.toList ∧
        ofTokenByBytes? token = some (ofToken token)) ∧
    ∀ search : String,
      tokenize search =
        (starts (lower search.toList)).map
          (fun start => String.ofList ((branch start).read start).1) ∧
      ∀ start ∈ starts (lower search.toList), ∀ token,
        token = String.ofList ((branch start).read start).1 →
          (ReadAsPhrase token ↔ (branch start).readsPhrase = true) ∧
          ((∃ c ∈ token.toList, isBlank c = true) → (branch start).readsPhrase = true) := by
  refine ⟨fun text => ⟨phraseFollows_iff_isQuoted text, ?_, fun _ => rfl⟩,
    fun token => ⟨isQuotedByBytes_eq token, ofTokenByBytes?_eq token⟩, fun search => ⟨?_, ?_⟩⟩
  · rintro phrase rest rfl quoted
    have closed := (isQuoted_iff phrase).mp quoted
    refine ⟨readPhrase_closed closed rest, ?_⟩
    rintro other ⟨unread, same⟩ otherQuoted
    exact (((isQuoted_iff other).mp otherQuoted).unique closed same).1
  · simp only [tokenize, ofLowered_eq_map, List.map_map, ← readToken_eq]
    rfl
  · rintro start isStart _ rfl
    rw [← readToken_eq]
    refine ⟨readAsPhrase_iff_branch isStart, ?_⟩
    rintro ⟨c, member, blank⟩
    rw [String.toList_ofList] at member
    exact readsPhrase_of_blank member blank

theorem phrase_scanners_agree_escaped_quote :
    readPhrase "\"é\\\" b\" x".toList = ("\"é\\\" b\"".toList, " x".toList) ∧
      ReadAsPhrase "+\"é\\\" b\"" := by
  obtain ⟨texts, _, searches⟩ := phrase_scanners_agree
  constructor
  · have quoted : isQuoted "\"é\\\" b\"".toList = true := by decide
    exact ((texts _).2.1 _ _ rfl quoted).1
  · have lowered : lower "+\"É\\\" b\" x".toList = "+\"é\\\" b\" x".toList := by decide +kernel
    have next : next? "+\"é\\\" b\" x".toList = some ("+\"é\\\" b\"".toList, " x".toList) := by
      decide
    have begins : "+\"é\\\" b\" x".toList ∈ starts (lower "+\"É\\\" b\" x".toList) := by
      rw [lowered, starts_eq, next]
      exact List.mem_cons_self
    exact ((searches _).2 _ begins _ (by decide)).1.mpr (by decide)

end SearchQuery.Term
