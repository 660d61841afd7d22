import SearchQuery.Proofs.Term.OfToken
import SearchQuery.Proofs.Text.LowerCase

/-!
# Writing terms

Every term that a search text can have is written as one token: a marker, and the word as it is or
between quotes. Written terms with single blanks between them are read back as they were
(`extract_writeSearch`), and the terms of any search text are such as can be written
(`writable_of_extract`). So the words that can be searched for are known exactly.
-/

set_option autoImplicit false

namespace SearchQuery.Term

open SearchQuery.Text SearchQuery.Token

def escapeInPhrase (c : Char) : List Char :=
  if c = '\\' ∨ c = '"' then ['\\', c] else [c]

/-- The marker in front of a written term. An optional phrase has none: a question mark would be a
token of its own. -/
def marker (term : Term) : List Char :=
  match term.polarity, term.mode with
  | .must, _ => ['+']
  | .mustNot, _ => ['-']
  | .should, .fuzzy => ['?']
  | _, _ => []

def written (term : Term) : List Char :=
  term.marker ++
    match term.mode with
    | .fuzzy => term.word.toList
    | .phrase => '"' :: (term.word.toList.flatMap escapeInPhrase ++ ['"'])

def writeSearch (terms : List Term) : String :=
  String.ofList ([' '].intercalate (terms.map written))

/-- A term that can be written. A word is written without quotes, so that it can neither have blanks
nor quotes in it. -/
structure Writable (term : Term) : Prop where
  known : term.polarity ∈ [Polarity.must, .should, .mustNot]
  notEmpty : term.word.toList ≠ []
  ends : VisibleEnds term.word.toList
  lowered : lower term.word.toList = term.word.toList
  plain : term.mode = .fuzzy → ∀ c ∈ term.word.toList, isBlank c = false ∧ c ≠ '"'

instance (term : Term) : Decidable term.Writable :=
  decidable_of_iff
    (term.polarity ∈ [Polarity.must, .should, .mustNot] ∧ term.word.toList ≠ [] ∧
      VisibleEnds term.word.toList ∧ lower term.word.toList = term.word.toList ∧
      (term.mode = .fuzzy → (term.word.toList.all fun c => !isBlank c && c != '"') = true)) <| by
    simp only [List.all_eq_true, Bool.and_eq_true, Bool.not_eq_true', bne_iff_ne]
    constructor
    · intro checks
      obtain ⟨known, notEmpty, ends, lowered, plain⟩ := checks
      exact ⟨known, notEmpty, ends, lowered, plain⟩
    · intro writable
      exact ⟨writable.known, writable.notEmpty, writable.ends, writable.lowered, writable.plain⟩

/-!
## Phrases
-/

theorem phraseBody_escapeInPhrase (text : List Char) :
    PhraseBody (text.flatMap escapeInPhrase) := by
  induction text with
  | nil => exact .nil
  | cons c rest ih =>
    rw [List.flatMap_cons]
    unfold escapeInPhrase
    split
    · exact .escaped ih
    · rename_i neither
      exact .plain (fun quote => neither (.inr quote)) (fun backslash => neither (.inl backslash)) ih

theorem unescape_escapeInPhrase (text : List Char) :
    unescape (text.flatMap escapeInPhrase) = text := by
  induction text with
  | nil => rfl
  | cons c rest ih =>
    rw [List.flatMap_cons, escapeInPhrase]
    split
    · exact congrArg (c :: ·) ih
    · rename_i neither
      rw [List.singleton_append,
        unescape_cons_plain (fun backslash => neither (.inl backslash)), ih]

theorem closedPhrase_escapeInPhrase (text : List Char) :
    ClosedPhrase ('"' :: (text.flatMap escapeInPhrase ++ ['"'])) :=
  ⟨_, phraseBody_escapeInPhrase text, rfl⟩

theorem readBody_escapeInPhrase (text : List Char) :
    readBody ('"' :: (text.flatMap escapeInPhrase ++ ['"'])) = (.phrase, text) := by
  rw [readBody_phrase (closedPhrase_escapeInPhrase text), List.drop_one, List.tail_cons,
    List.dropLast_concat, unescape_escapeInPhrase]

theorem readBody_plain {text : List Char} (plain : ∀ c ∈ text, c ≠ '"') :
    readBody text = (.fuzzy, text) := by
  have notClosed : ¬ ClosedPhrase text := by
    intro closed
    exact plain '"' (List.mem_of_head? closed.head?) rfl
  rw [readBody_fuzzy notClosed]
  refine congrArg _ (List.filter_eq_self.mpr fun c member => ?_)
  simpa using plain c member

/-!
## Written terms as tokens
-/

theorem tokenAt_plain {marker : Char} {word rest : List Char} (visibleMarker : isBlank marker = false)
    (notQuote : marker ≠ '"') (notEmpty : word ≠ [])
    (plain : ∀ c ∈ word, isBlank c = false ∧ c ≠ '"')
    (ends : ∀ c, rest.head? = some c → isBlank c = true) :
    TokenAt (marker :: (word ++ rest)) (marker :: word) := by
  have noPhrase : ¬ OpensPhrase (marker :: (word ++ rest)) := by
    intro opens
    rcases opens.quote with here | behind
    · exact notQuote (Option.some.inj here)
    · obtain ⟨first, more, rfl⟩ := List.exists_cons_of_ne_nil notEmpty
      exact (plain first List.mem_cons_self).2 (Option.some.inj behind)
  refine .word noPhrase (longestWord_append ?_ ends)
  intro c member
  rcases List.mem_cons.mp member with rfl | member
  · exact visibleMarker
  · exact (plain c member).1

theorem written_phrase {term : Term} (phrase : term.mode = .phrase) :
    term.written = term.marker ++ '"' :: (term.word.toList.flatMap escapeInPhrase ++ ['"']) := by
  rw [written, phrase]

theorem written_fuzzy {term : Term} (fuzzy : term.mode = .fuzzy) :
    term.written = term.marker ++ term.word.toList := by
  rw [written, fuzzy]

theorem marker_phrase {term : Term} (phrase : term.mode = .phrase)
    (known : term.polarity ∈ [Polarity.must, .should, .mustNot]) :
    (term.marker = [] ∧ term.polarity = .should) ∨
      ∃ sign, (sign = '+' ∨ sign = '-') ∧ term.marker = [sign] ∧
        Polarity.ofMarker? sign = some term.polarity := by
  unfold marker
  rw [phrase]
  cases isPolarity : term.polarity with
  | must => exact .inr ⟨'+', .inl rfl, rfl, rfl⟩
  | should => exact .inl ⟨rfl, rfl⟩
  | mustNot => exact .inr ⟨'-', .inr rfl, rfl, rfl⟩
  | other key =>
    rw [isPolarity] at known
    exact absurd known (by simp)

theorem marker_fuzzy {term : Term} (fuzzy : term.mode = .fuzzy)
    (known : term.polarity ∈ [Polarity.must, .should, .mustNot]) :
    ∃ sign ∈ ['+', '-', '?'], term.marker = [sign] ∧
      Polarity.ofMarker? sign = some term.polarity := by
  unfold marker
  rw [fuzzy]
  cases isPolarity : term.polarity with
  | must => exact ⟨'+', by decide, rfl, rfl⟩
  | should => exact ⟨'?', by decide, rfl, rfl⟩
  | mustNot => exact ⟨'-', by decide, rfl, rfl⟩
  | other key =>
    rw [isPolarity] at known
    exact absurd known (by simp)

theorem visible_of_mem_markers {sign : Char} (isSign : sign ∈ ['+', '-', '?']) :
    isBlank sign = false ∧ sign ≠ '"' := by
  simp only [List.mem_cons, List.not_mem_nil, or_false] at isSign
  rcases isSign with rfl | rfl | rfl <;> decide

/-- A written term is one token, whatever stands behind the blank after it. -/
theorem Writable.tokenAt {term : Term} (writable : term.Writable) (rest : List Char)
    (ends : ∀ c, rest.head? = some c → isBlank c = true) :
    TokenAt (term.written ++ rest) term.written := by
  cases isMode : term.mode with
  | phrase =>
    have closed := closedPhrase_escapeInPhrase term.word.toList
    rw [written_phrase isMode]
    rcases marker_phrase isMode writable.known with ⟨isMarker, _⟩ | ⟨sign, isSign, isMarker, _⟩
    · rw [isMarker]
      exact .phrase closed
    · rw [isMarker]
      exact .signed isSign closed
  | fuzzy =>
    obtain ⟨sign, isSign, isMarker, _⟩ := marker_fuzzy isMode writable.known
    obtain ⟨visible, notQuote⟩ := visible_of_mem_markers isSign
    rw [written_fuzzy isMode, isMarker]
    exact tokenAt_plain visible notQuote writable.notEmpty (writable.plain isMode) ends

theorem written_ne_nil {term : Term} (writable : term.Writable) : term.written ≠ [] := by
  cases isMode : term.mode with
  | phrase =>
    rw [written_phrase isMode]
    exact List.append_ne_nil_of_right_ne_nil _ (List.cons_ne_nil _ _)
  | fuzzy =>
    rw [written_fuzzy isMode]
    exact List.append_ne_nil_of_right_ne_nil _ writable.notEmpty

theorem splitMarker_marked {sign : Char} {polarity : Polarity}
    (isMarker : Polarity.ofMarker? sign = some polarity) (rest : List Char) :
    splitMarker (sign :: rest) = (polarity, rest) := by
  simp only [splitMarker, isMarker]

theorem ofToken_of_parts {term : Term} (writable : term.Writable) {token : List Char}
    (trimmed : trim token = token) (body : List Char)
    (parts : splitMarker token = (term.polarity, body))
    (read : readBody body = (term.mode, term.word.toList)) :
    ofToken (String.ofList token) = .ok term := by
  refine (ofToken_eq_ok_iff _ _).mpr ?_
  rw [String.toList_ofList, tokenBody, trimmed, parts, read,
    trim_of_visibleEnds writable.ends, String.ofList_toList]
  exact ⟨writable.notEmpty, rfl⟩

theorem Writable.ofToken_written {term : Term} (writable : term.Writable) :
    ofToken (String.ofList term.written) = .ok term := by
  have trimmed : trim term.written = term.written :=
    (writable.tokenAt [] (by simp)).trim_eq (written_ne_nil writable)
  cases isMode : term.mode with
  | phrase =>
    have read := readBody_escapeInPhrase term.word.toList
    rw [← isMode] at read
    rcases marker_phrase isMode writable.known with ⟨isMarker, isShould⟩ | ⟨sign, _, isMarker, isSign⟩
    · refine ofToken_of_parts writable trimmed _ ?_ read
      rw [written_phrase isMode, isMarker, isShould]
      rfl
    · refine ofToken_of_parts writable trimmed _ ?_ read
      rw [written_phrase isMode, isMarker]
      exact splitMarker_marked isSign _
  | fuzzy =>
    have read := readBody_plain fun c member => (writable.plain isMode c member).2
    rw [← isMode] at read
    obtain ⟨sign, _, isMarker, isSign⟩ := marker_fuzzy isMode writable.known
    refine ofToken_of_parts writable trimmed _ ?_ read
    rw [written_fuzzy isMode, isMarker]
    exact splitMarker_marked isSign _

/-!
## Written search texts
-/

theorem ofLowered_written {terms : List Term} (writable : ∀ term ∈ terms, term.Writable) :
    ofLowered ([' '].intercalate (terms.map written)) = terms.map written := by
  induction terms with
  | nil => exact ofLowered_nil
  | cons term others ih =>
    have here := writable term List.mem_cons_self
    have later := ih fun other member => writable other (List.mem_cons_of_mem _ member)
    cases others with
    | nil =>
      calc ofLowered ([' '].intercalate [term.written])
          = ofLowered (term.written ++ []) := by rw [List.intercalate_singleton, List.append_nil]
        _ = term.written :: ofLowered [] :=
            ofLowered_token (written_ne_nil here) (here.tokenAt [] (by simp))
        _ = [term.written] := by rw [ofLowered_nil]
    | cons next more =>
      have blank : isBlank ' ' = true := rfl
      have isToken := here.tokenAt ([' '] ++ [' '].intercalate ((next :: more).map written))
        (by simp [blank])
      calc ofLowered ([' '].intercalate ((term :: next :: more).map written))
          = ofLowered (term.written ++ ([' '] ++ [' '].intercalate ((next :: more).map written))) := by
            rw [List.map_cons, List.map_cons, List.intercalate_cons_cons, List.append_assoc]
        _ = term.written :: ofLowered ([' '] ++ [' '].intercalate ((next :: more).map written)) :=
            ofLowered_token (written_ne_nil here) isToken
        _ = term.written :: ofLowered ([' '].intercalate ((next :: more).map written)) := by
            rw [ofLowered_gap fun c member => by rw [List.mem_singleton.mp member]; rfl]
        _ = (term :: next :: more).map written := congrArg (term.written :: ·) later

theorem isLower_of_mem_escapeInPhrase {text : List Char} (small : ∀ c ∈ text, IsLower c) {c : Char}
    (member : c ∈ text.flatMap escapeInPhrase) : IsLower c := by
  obtain ⟨original, inText, inEscape⟩ := List.mem_flatMap.mp member
  unfold escapeInPhrase at inEscape
  split at inEscape
  · rcases List.mem_cons.mp inEscape with rfl | last
    · decide +kernel
    · rw [List.mem_singleton.mp last]
      exact small original inText
  · rw [List.mem_singleton.mp inEscape]
    exact small original inText

theorem isLower_of_mem_marker {term : Term} {c : Char} (member : c ∈ term.marker) : IsLower c := by
  unfold marker at member
  split at member
  · rw [List.mem_singleton.mp member]
    decide +kernel
  · rw [List.mem_singleton.mp member]
    decide +kernel
  · rw [List.mem_singleton.mp member]
    decide +kernel
  · cases member

theorem Writable.isLower {term : Term} (writable : term.Writable) :
    ∀ c ∈ term.written, IsLower c := by
  have small := (lower_eq_self_iff _).mp writable.lowered
  intro c member
  cases isMode : term.mode with
  | phrase =>
    rw [written_phrase isMode] at member
    rcases List.mem_append.mp member with inMarker | inPhrase
    · exact isLower_of_mem_marker inMarker
    · rcases List.mem_cons.mp inPhrase with rfl | inBody
      · decide +kernel
      · rcases List.mem_append.mp inBody with inside | last
        · exact isLower_of_mem_escapeInPhrase small inside
        · rw [List.mem_singleton.mp last]
          decide +kernel
  | fuzzy =>
    rw [written_fuzzy isMode] at member
    rcases List.mem_append.mp member with inMarker | inWord
    · exact isLower_of_mem_marker inMarker
    · exact small c inWord

theorem isLower_of_mem_intercalate {texts : List (List Char)}
    (small : ∀ text ∈ texts, ∀ c ∈ text, IsLower c) :
    ∀ c ∈ [' '].intercalate texts, IsLower c := by
  induction texts with
  | nil => simp
  | cons text others ih =>
    have here := small text List.mem_cons_self
    have later := ih fun other member => small other (List.mem_cons_of_mem _ member)
    cases others with
    | nil => simpa using here
    | cons next more =>
      intro c member
      rw [List.intercalate_cons_cons, List.append_assoc] at member
      rcases List.mem_append.mp member with inText | behind
      · exact here c inText
      · rcases List.mem_append.mp behind with between | inOthers
        · rw [List.mem_singleton.mp between]
          decide +kernel
        · exact later c inOthers

theorem tokenize_writeSearch {terms : List Term} (writable : ∀ term ∈ terms, term.Writable) :
    tokenize (writeSearch terms) = terms.map fun term => String.ofList term.written := by
  have small : ∀ c ∈ [' '].intercalate (terms.map written), IsLower c := by
    apply isLower_of_mem_intercalate
    intro text member
    obtain ⟨term, isTerm, rfl⟩ := List.mem_map.mp member
    exact (writable term isTerm).isLower
  rw [tokenize, writeSearch, String.toList_ofList, (lower_eq_self_iff _).mpr small,
    ofLowered_written writable, List.map_map]
  rfl

/-- Written terms are read back. -/
theorem extract_writeSearch {terms : List Term} (someTerms : terms ≠ [])
    (writable : ∀ term ∈ terms, term.Writable) :
    (extract (writeSearch terms)).value = .ok terms := by
  refine (value_extract_eq_ok_iff _ _).mpr ⟨someTerms, ?_⟩
  rw [tokenize_writeSearch writable, List.filterMap_map]
  have each : ∀ term ∈ terms,
      ((fun token => (ofToken token).toOption) ∘ fun term => String.ofList term.written) term =
        some term := by
    intro term member
    rw [Function.comp_apply, (writable term member).ofToken_written]
    rfl
  rw [List.filterMap_congr each, List.filterMap_some]

theorem writable_of_token {term : Term} {token rest : List Char} (notEmpty : token ≠ [])
    (isToken : TokenAt (token ++ rest) token) (small : ∀ c ∈ token, IsLower c)
    (read : ofToken (String.ofList token) = .ok term) : term.Writable := by
  have known := known_of_token read
  have within : ∀ c ∈ term.word.toList, c ∈ token := fun c member => by
    simpa using mem_token_of_mem_word read member
  obtain ⟨someWord, rfl⟩ := (ofToken_eq_ok_iff _ _).mp read
  have trimmed := isToken.trim_eq notEmpty
  simp only [String.toList_ofList, tokenBody, trimmed] at someWord known within ⊢
  constructor
  · exact known
  · simpa using someWord
  · simpa using visibleEnds_trim _
  · simp only [String.toList_ofList]
    exact (lower_eq_self_iff _).mpr fun c member => small c (within c member)
  · intro fuzzy c member
    rw [String.toList_ofList] at member
    have notClosed : ¬ ClosedPhrase (splitMarker token).2 := by
      intro closed
      rw [readBody_phrase closed] at fuzzy
      cases fuzzy
    refine ⟨isToken.visible_of_not_quoted notClosed c (within c member), ?_⟩
    rw [readBody_fuzzy notClosed] at member
    simpa using (List.mem_filter.mp (mem_of_mem_trim member)).2

theorem writable_of_extract {search : String} {terms : List Term}
    (found : (extract search).value = .ok terms) : ∀ term ∈ terms, term.Writable := by
  intro term member
  obtain ⟨token, isToken, read⟩ := (mem_of_extract found).mp member
  obtain ⟨chars, inText, rfl⟩ := List.mem_map.mp isToken
  obtain ⟨notEmpty, ⟨rest, starts⟩, within⟩ := tokenAt_of_mem inText
  exact writable_of_token notEmpty starts
    (fun c inToken => isLower_of_mem_lowerAfter (within c inToken)) read

/-- The lists of terms that can be written are those that are found in search texts. What is written
for such a list is a search text in which exactly the list is found. -/
theorem extract_iff_writable :
    (∀ terms : List Term, terms ≠ [] → (∀ term ∈ terms, term.Writable) →
      (extract (writeSearch terms)).value = .ok terms) ∧
    (∀ search terms, (extract search).value = .ok terms →
      terms ≠ [] ∧ (∀ term ∈ terms, term.Writable) ∧
        (extract (writeSearch terms)).value = .ok terms) := by
  constructor
  · intro terms someTerms writable
    exact extract_writeSearch someTerms writable
  · intro search terms found
    have someTerms := ((value_extract_eq_ok_iff search terms).mp found).1
    have writable := writable_of_extract found
    exact ⟨someTerms, writable, extract_writeSearch someTerms writable⟩

theorem extract_written_phrase_and_word :
    let terms : List Term := [⟨"say \"hi\\", .must, .phrase⟩, ⟨"?", .should, .phrase⟩,
      ⟨"+c\\", .should, .fuzzy⟩, ⟨"-", .mustNot, .fuzzy⟩]
    (∀ term ∈ terms, term.Writable) ∧
      writeSearch terms = "+\"say \\\"hi\\\\\" \"?\" ?+c\\ --" ∧
      (extract (writeSearch terms)).value = .ok terms := by
  refine ⟨by decide +kernel, by decide +kernel, ?_⟩
  exact extract_iff_writable.1 _ (by decide) (by decide +kernel)

end SearchQuery.Term
