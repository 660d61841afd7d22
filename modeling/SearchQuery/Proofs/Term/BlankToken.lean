import SearchQuery.Proofs.Term.OfToken

/-!
# Tokens with nothing to search for

A token of a search text stands for a term unless it is blank: nothing but quotes behind a marker,
or a phrase with nothing but blanks in it, each perhaps behind a backslash, and perhaps with a sign
in front. `BlankToken` says so about the characters of the token, without the steps by which it is
read, and a search has no terms exactly when all its tokens are blank
(`value_extract_eq_error_iff`).
-/

set_option autoImplicit false

namespace SearchQuery.Term

open SearchQuery.Text SearchQuery.Token

/-- Blanks between the quotes of a phrase, each by itself or taken along by a backslash. -/
inductive BlankBody : List Char → Prop where
  | nil : BlankBody []
  | plain {c : Char} {rest : List Char} :
      isBlank c = true → BlankBody rest → BlankBody (c :: rest)
  | escaped {c : Char} {rest : List Char} :
      isBlank c = true → BlankBody rest → BlankBody ('\\' :: c :: rest)

/-- A token that is made up of a marker, or none, and quotes, or of a sign, or none, and a blank
phrase. -/
inductive BlankToken : List Char → Prop where
  | quotes {marker : List Char} {count : Nat} :
      marker ∈ [[], ['+'], ['-'], ['?']] → BlankToken (marker ++ List.replicate count '"')
  | phrase {marker body : List Char} :
      marker ∈ [[], ['+'], ['-']] → BlankBody body →
      BlankToken (marker ++ '"' :: (body ++ ['"']))

/-!
## Blank phrases
-/

theorem not_isBlank_of_quote_or_backslash {c : Char} (blank : isBlank c = true) :
    c ≠ '"' ∧ c ≠ '\\' := by
  constructor <;> intro same <;> subst same <;> cases blank

theorem BlankBody.phraseBody {body : List Char} (blank : BlankBody body) : PhraseBody body := by
  induction blank with
  | nil => exact .nil
  | plain isBlank _ ih =>
    obtain ⟨notQuote, notBackslash⟩ := not_isBlank_of_quote_or_backslash isBlank
    exact .plain notQuote notBackslash ih
  | escaped _ _ ih => exact .escaped ih

/-- The text of a phrase is blank exactly when its body is. -/
theorem blank_unescape_iff {body : List Char} (valid : PhraseBody body) :
    (∀ c ∈ unescape body, isBlank c = true) ↔ BlankBody body := by
  induction valid with
  | nil => exact ⟨fun _ => .nil, fun _ c member => by cases member⟩
  | @plain c rest notQuote notBackslash _ ih =>
    rw [unescape_cons_plain notBackslash, List.forall_mem_cons, ih]
    constructor
    · intro parts
      exact .plain parts.1 parts.2
    · intro blank
      cases blank with
      | plain isBlank others => exact ⟨isBlank, others⟩
      | escaped _ _ => exact absurd rfl notBackslash
  | @escaped c rest _ ih =>
    rw [show unescape ('\\' :: c :: rest) = c :: unescape rest from rfl, List.forall_mem_cons, ih]
    constructor
    · intro parts
      exact .escaped parts.1 parts.2
    · intro blank
      cases blank with
      | plain isBlank _ => cases isBlank
      | escaped isBlank others => exact ⟨isBlank, others⟩

theorem blank_phrase_iff {body : List Char} (valid : PhraseBody body) :
    trim (readBody ('"' :: (body ++ ['"']))).2 = [] ↔ BlankBody body := by
  rw [readBody_phrase ⟨body, valid, rfl⟩, List.drop_one, List.tail_cons, List.dropLast_concat,
    trim_eq_nil_iff, blank_unescape_iff valid]

/-!
## Nothing but quotes
-/

theorem readBody_quotes (count : Nat) : (readBody (List.replicate count '"')).2 = [] := by
  have onlyQuotes : ∀ c ∈ List.replicate count '"', c = '"' := fun c member =>
    (List.mem_replicate.mp member).2
  by_cases closed : ClosedPhrase (List.replicate count '"')
  · obtain ⟨body, valid, whole⟩ := closed
    rw [whole] at onlyQuotes ⊢
    rw [readBody_phrase ⟨body, valid, rfl⟩, List.drop_one, List.tail_cons, List.dropLast_concat]
    -- A body does not start with a quote, so that there is nothing in it.
    have first : ∀ c ∈ body, c = '"' := fun c member =>
      onlyQuotes c (List.mem_cons_of_mem _ (List.mem_append_left _ member))
    cases valid with
    | nil => rfl
    | plain notQuote _ _ => exact absurd (first _ List.mem_cons_self) notQuote
    | escaped _ => exact absurd (first _ List.mem_cons_self) (by decide)
  · rw [readBody_fuzzy closed]
    exact List.filter_eq_nil_iff.mpr fun c member => by simp [onlyQuotes c member]

/-- A body that is no phrase and has no blanks in it leaves nothing only if it is made of quotes. -/
theorem eq_quotes_of_blank {body : List Char} (notClosed : ¬ ClosedPhrase body)
    (visible : ∀ c ∈ body, isBlank c = false) (blank : trim (readBody body).2 = []) :
    body = List.replicate body.length '"' := by
  rw [readBody_fuzzy notClosed, trim_eq_nil_iff] at blank
  refine List.eq_replicate_iff.mpr ⟨rfl, fun c member => ?_⟩
  by_contra notQuote
  have kept := blank c (List.mem_filter.mpr ⟨member, by simpa using notQuote⟩)
  rw [visible c member] at kept
  cases kept

/-!
## Markers
-/

theorem splitMarker_append {marker : List Char} (isMarker : marker ∈ [[], ['+'], ['-'], ['?']])
    {body : List Char} (starts : ∀ c, body.head? = some c → c = '"') :
    (splitMarker (marker ++ body)).2 = body := by
  simp only [List.mem_cons, List.not_mem_nil, or_false] at isMarker
  rcases isMarker with rfl | rfl | rfl | rfl
  · cases body with
    | nil => rfl
    | cons c rest =>
      rw [starts c rfl]
      rfl
  · rfl
  · rfl
  · rfl

theorem splitMarker_closed {marker phrase : List Char}
    (isMarker : marker ∈ [[], ['+'], ['-'], ['?']]) (closed : ClosedPhrase phrase) :
    (splitMarker (marker ++ phrase)).2 = phrase := by
  refine splitMarker_append isMarker fun c first => ?_
  rw [closed.head?] at first
  exact (Option.some.inj first).symm

theorem exists_marker (token : List Char) :
    ∃ marker ∈ [[], ['+'], ['-'], ['?']], token = marker ++ (splitMarker token).2 := by
  cases token with
  | nil => exact ⟨[], by simp, rfl⟩
  | cons c rest =>
    by_cases isMarker : c = '+' ∨ c = '-' ∨ c = '?'
    · rcases isMarker with rfl | rfl | rfl
      · exact ⟨['+'], by simp, rfl⟩
      · exact ⟨['-'], by simp, rfl⟩
      · exact ⟨['?'], by simp, rfl⟩
    · simp only [not_or] at isMarker
      obtain ⟨notPlus, notMinus, notQuestion⟩ := isMarker
      refine ⟨[], by simp, ?_⟩
      rw [splitMarker, Polarity.ofMarker?.eq_4 c notPlus notMinus notQuestion]
      rfl

/-- A start of a text whose body is a phrase makes the text open with a phrase. -/
theorem opensPhrase_of_closed {text token : List Char} (starts : token <+: text)
    (closed : ClosedPhrase (splitMarker token).2) : OpensPhrase text := by
  obtain ⟨marker, isMarker, whole⟩ := exists_marker token
  rw [whole] at starts
  refine ⟨_, closed, ?_⟩
  simp only [List.mem_cons, List.not_mem_nil, or_false] at isMarker
  rcases isMarker with rfl | rfl | rfl | rfl
  · exact .inl starts
  · exact .inr ⟨'+', by simp, starts⟩
  · exact .inr ⟨'-', by simp, starts⟩
  · exact .inr ⟨'?', by simp, starts⟩

/-!
## Blank tokens
-/

theorem BlankToken.readBody_blank {token : List Char} (blank : BlankToken token) :
    trim (readBody (splitMarker token).2).2 = [] := by
  cases blank with
  | @quotes marker count isMarker =>
    have starts : ∀ c, (List.replicate count '"').head? = some c → c = '"' := fun c first =>
      (List.mem_replicate.mp (List.mem_of_head? first)).2
    rw [splitMarker_append isMarker starts, readBody_quotes]
    rfl
  | @phrase marker body isSign blank =>
    have isMarker : marker ∈ [[], ['+'], ['-'], ['?']] :=
      List.mem_append_left [['?']] isSign
    rw [splitMarker_closed isMarker ⟨body, blank.phraseBody, rfl⟩]
    exact (blank_phrase_iff blank.phraseBody).mpr blank

/-- Of a token of a search text nothing is left exactly when it is blank. -/
theorem readBody_blank_iff {text token : List Char} (isToken : TokenAt text token) :
    trim (readBody (splitMarker token).2).2 = [] ↔ BlankToken token := by
  constructor
  · intro nothing
    cases isToken with
    | phrase closed =>
      obtain ⟨body, valid, rfl⟩ := closed
      exact @BlankToken.phrase [] body (by simp) ((blank_phrase_iff valid).mp nothing)
    | signed isSign closed =>
      obtain ⟨body, valid, rfl⟩ := closed
      rcases isSign with rfl | rfl
      · exact @BlankToken.phrase ['+'] body (by simp) ((blank_phrase_iff valid).mp nothing)
      · exact @BlankToken.phrase ['-'] body (by simp) ((blank_phrase_iff valid).mp nothing)
    | question _ => exact @BlankToken.quotes ['?'] 0 (by simp)
    | word noPhrase longest =>
      obtain ⟨marker, isMarker, whole⟩ := exists_marker token
      have notClosed : ¬ ClosedPhrase (splitMarker token).2 := fun closed =>
        noPhrase (opensPhrase_of_closed longest.starts closed)
      have quotes := eq_quotes_of_blank notClosed
        (fun c member => longest.visible c ((splitMarker_suffix token).subset member)) nothing
      rw [whole, quotes]
      exact .quotes isMarker
  · exact BlankToken.readBody_blank

theorem toOption_ofToken_eq_none_iff {search token : String} (member : token ∈ tokenize search) :
    (ofToken token).toOption = none ↔ BlankToken token.toList := by
  obtain ⟨chars, isToken, rfl⟩ := List.mem_map.mp member
  obtain ⟨notEmpty, ⟨rest, starts⟩, _⟩ := tokenAt_of_mem isToken
  rw [String.toList_ofList, ← readBody_blank_iff starts]
  have parts := ofToken_eq_ok_iff (String.ofList chars)
  rw [tokenBody, String.toList_ofList, starts.trim_eq notEmpty] at parts
  constructor
  · intro none
    by_contra someLeft
    rw [(parts _).mpr ⟨someLeft, rfl⟩] at none
    cases none
  · intro nothing
    cases read : ofToken (String.ofList chars) with
    | error error => rfl
    | ok term => exact absurd nothing ((parts term).mp read).1

/-- A search has no terms exactly when all its tokens are blank. The error holds the search text as
it was given. -/
theorem value_extract_eq_error_iff (search : String) (error : NoTerms) :
    (extract search).value = .error error ↔
      (∀ token ∈ tokenize search, BlankToken token.toList) ∧ error = ⟨search⟩ := by
  have allBlank : ((tokenize search).filterMap fun token => (ofToken token).toOption) = [] ↔
      ∀ token ∈ tokenize search, BlankToken token.toList := by
    rw [List.filterMap_eq_nil_iff]
    exact forall₂_congr fun token member => toOption_ofToken_eq_none_iff member
  simp only [extract, Reported.value_bind, Reported.value_pure, value_ofTokens]
  rw [← allBlank]
  split
  · rename_i none
    simp only [none, true_and, Except.error.injEq]
    exact eq_comm
  · rename_i some
    simp [some]

theorem exists_extract_iff (search : String) :
    (∃ terms, (extract search).value = .ok terms) ↔
      ∃ token ∈ tokenize search, ¬ BlankToken token.toList := by
  have fails := value_extract_eq_error_iff search ⟨search⟩
  constructor
  · intro found
    obtain ⟨terms, found⟩ := found
    by_contra none
    simp only [not_exists, not_and, not_not] at none
    rw [fails.mpr ⟨none, rfl⟩] at found
    cases found
  · intro some
    obtain ⟨token, member, notBlank⟩ := some
    cases found : (extract search).value with
    | error error =>
      have allBlank := ((value_extract_eq_error_iff search error).mp found).1
      exact absurd (allBlank token member) notBlank
    | ok terms => exact ⟨terms, rfl⟩

end SearchQuery.Term
