import SearchQuery.Proofs.Query.Meaning
import SearchQuery.Proofs.Term.Written
import SearchQuery.Query.Fanout

/-!
# What a text search means

A term matches when it is found in some field that the request names and its allow-list admits. The
textual clause of a search holds when every term with a plus sign matches, no term with a minus sign
does, and, if there are optional terms and none with a plus sign, some optional term does.
-/

set_option autoImplicit false

namespace SearchQuery.Term

open SearchQuery.Grouping (Listed)

/-- The field names of the parts of a document in which a request may look for text. -/
def allowedParts (request : SearchRequest) : List String :=
  (request.parts.map ("parts." ++ ·)).filter request.allows

/-- A term is found in some allowed field: as a text in the content, the title or an extra field, as
a part of a word in a wildcard field, or in the parts of the document, all of which are looked
through by one condition. -/
def Matches (term : Term) (request : SearchRequest) (leaf : Clause → Bool) : Prop :=
  (∃ field ∈ ["content", "title"] ++ request.fields, request.allows field = true ∧
    leaf (.matching term.mode field term.word) = true) ∨
  (∃ field ∈ request.wildcardFields, request.allows field = true ∧
    leaf (.wildcard field ("*" ++ term.word ++ "*")) = true) ∨
  (allowedParts request ≠ [] ∧ leaf (.queryString (allowedParts request) term.word) = true)

/-- A search text has a token that starts with the marker and stands for the term. -/
def Marked (search : String) (marker : Char) (term : Term) : Prop :=
  ∃ token ∈ Token.tokenize search, ofToken token = .ok term ∧ token.toList.head? = some marker

/-- A search text has a token that stands for the term and starts neither with a plus sign nor with
a minus sign. -/
def Optional (search : String) (term : Term) : Prop :=
  ∃ token ∈ Token.tokenize search, ofToken token = .ok term ∧
    token.toList.head? ≠ some '+' ∧ token.toList.head? ≠ some '-'

/-!
## One term
-/

theorem exists_textClauses_iff (term : Term) (request : SearchRequest) (leaf : Clause → Bool) :
    (∃ clause ∈ term.textClauses request, clause.holds leaf = true) ↔
      ∃ field ∈ ["content", "title"] ++ request.fields, request.allows field = true ∧
        leaf (.matching term.mode field term.word) = true := by
  rw [textClauses, Clause.exists_holds_map_iff]
  simp only [List.mem_filter, and_assoc]
  rfl

theorem exists_wildcardClauses_iff (term : Term) (request : SearchRequest)
    (leaf : Clause → Bool) :
    (∃ clause ∈ term.wildcardClauses request, clause.holds leaf = true) ↔
      ∃ field ∈ request.wildcardFields, request.allows field = true ∧
        leaf (.wildcard field ("*" ++ term.word ++ "*")) = true := by
  rw [wildcardClauses, Clause.exists_holds_map_iff]
  simp only [List.mem_filter, and_assoc]
  rfl

theorem exists_partClauses_iff (term : Term) (request : SearchRequest) (leaf : Clause → Bool) :
    (∃ clause ∈ term.partClauses request, clause.holds leaf = true) ↔
      allowedParts request ≠ [] ∧
        leaf (.queryString (allowedParts request) term.word) = true := by
  rw [partClauses, show request.partFields.filter request.allows = allowedParts request from rfl]
  cases allowedParts request with
  | nil => simp
  | cons first others => simp [Clause.holds]

theorem holds_fanout_iff (term : Term) (request : SearchRequest) (leaf : Clause → Bool) :
    (term.fanout request).holds leaf = true ↔ term.Matches request leaf := by
  rw [fanout, Clause.holds_ofGroup_should_iff, Matches, ← exists_textClauses_iff,
    ← exists_wildcardClauses_iff, ← exists_partClauses_iff]
  simp only [List.mem_append, or_and_right, exists_or, or_assoc]

/-!
## Terms together
-/

theorem groups_composeQuery (terms : List Term) (request : SearchRequest) :
    (composeQuery terms request).groups =
      terms.foldl (fun groups term =>
        Grouping.add (Occur.ofPolarity term.polarity) [term.fanout request] groups) [] := by
  have run : ∀ query : BoolQuery,
      (terms.foldl (fun query term =>
        query.push (Occur.ofPolarity term.polarity) (term.fanout request)) query).groups =
      terms.foldl (fun groups term =>
        Grouping.add (Occur.ofPolarity term.polarity) [term.fanout request] groups)
        query.groups := by
    induction terms with
    | nil => intro query; rfl
    | cons term rest ih =>
      intro query
      rw [List.foldl_cons, List.foldl_cons, ih]
      rfl
  exact run BoolQuery.empty

theorem listed_composeQuery_iff {terms : List Term} {request : SearchRequest} {occur : Occur}
    {clause : Clause} :
    Listed occur clause (composeQuery terms request).groups ↔
      ∃ term ∈ terms, occur = Occur.ofPolarity term.polarity ∧ clause = term.fanout request := by
  rw [groups_composeQuery, Grouping.listed_foldl_add (fun term => Occur.ofPolarity term.polarity)
    (fun term => [Term.fanout term request]), or_iff_right (Grouping.not_listed_nil _ _)]
  simp only [List.mem_singleton]

theorem mem_keys_composeQuery_iff {terms : List Term} {request : SearchRequest} {occur : Occur} :
    occur ∈ (composeQuery terms request).groups.map (·.1) ↔
      ∃ term ∈ terms, occur = Occur.ofPolarity term.polarity := by
  rw [groups_composeQuery, Grouping.mem_keys_foldl_add (fun term => Occur.ofPolarity term.polarity)
    (fun term => [Term.fanout term request])]
  simp

theorem ofPolarity_eq_iff (wanted polarity : Polarity)
    (known : wanted ∈ [Polarity.must, .should, .mustNot]) :
    Occur.ofPolarity wanted = Occur.ofPolarity polarity ↔ polarity = wanted := by
  have known : wanted = .must ∨ wanted = .should ∨ wanted = .mustNot := by simpa using known
  cases polarity with
  | other key =>
    by_cases isFilter : key = "filter" <;> rcases known with rfl | rfl | rfl <;>
      simp [Occur.ofPolarity, isFilter]
  | _ => rcases known with rfl | rfl | rfl <;> simp [Occur.ofPolarity]

theorem ofPolarity_ne_filter {polarity : Polarity}
    (known : polarity ∈ [Polarity.must, .should, .mustNot]) :
    .filter ≠ Occur.ofPolarity polarity := by
  revert polarity
  decide

/-- The meaning of the textual clause of some terms, by polarities. A polarity with a key of its own
may be that of the group of unscored filters, so that such terms are left out. -/
theorem holds_compose_iff {terms : List Term}
    (known : ∀ term ∈ terms, term.polarity ∈ [Polarity.must, .should, .mustNot])
    (request : SearchRequest) (leaf : Clause → Bool) :
    (compose terms request).holds leaf = true ↔
      (∀ term ∈ terms, term.polarity = .must → term.Matches request leaf) ∧
      (∀ term ∈ terms, term.polarity = .mustNot → ¬ term.Matches request leaf) ∧
      ((∃ term ∈ terms, term.polarity = .should) → (∀ term ∈ terms, term.polarity ≠ .must) →
        ∃ term ∈ terms, term.polarity = .should ∧ term.Matches request leaf) := by
  have unfiltered : .filter ∉ (composeQuery terms request).groups.map (·.1) := by
    rw [mem_keys_composeQuery_iff]
    intro found
    obtain ⟨term, member, same⟩ := found
    exact ofPolarity_ne_filter (known term member) same
  have notListed : ∀ clause, ¬ Listed .filter clause (composeQuery terms request).groups := by
    intro clause listed
    obtain ⟨term, member, same, _⟩ := listed_composeQuery_iff.mp listed
    exact ofPolarity_ne_filter (known term member) same
  rw [compose, BoolQuery.toClause, Clause.holds_bool_iff]
  have isMust (polarity : Polarity) : .must = Occur.ofPolarity polarity ↔ polarity = .must :=
    ofPolarity_eq_iff .must polarity (by decide)
  have isShould (polarity : Polarity) : .should = Occur.ofPolarity polarity ↔ polarity = .should :=
    ofPolarity_eq_iff .should polarity (by decide)
  have isMustNot (polarity : Polarity) :
      .mustNot = Occur.ofPolarity polarity ↔ polarity = .mustNot :=
    ofPolarity_eq_iff .mustNot polarity (by decide)
  simp only [notListed, or_false, unfiltered, not_false_eq_true, forall_const,
    listed_composeQuery_iff, mem_keys_composeQuery_iff, isMust, isShould, isMustNot]
  refine and_congr ?_ (and_congr ?_ ?_)
  · constructor
    · intro all term member isMust
      exact (holds_fanout_iff term request leaf).mp (all _ ⟨term, member, isMust, rfl⟩)
    · intro all clause listed
      obtain ⟨term, member, isMust, rfl⟩ := listed
      exact (holds_fanout_iff term request leaf).mpr (all term member isMust)
  · constructor
    · intro none term member isMustNot matching
      have holds := (holds_fanout_iff term request leaf).mpr matching
      exact absurd holds (Bool.eq_false_iff.mp (none _ ⟨term, member, isMustNot, rfl⟩))
    · intro none clause listed
      obtain ⟨term, member, isMustNot, rfl⟩ := listed
      refine Bool.eq_false_iff.mpr fun holds => ?_
      exact none term member isMustNot ((holds_fanout_iff term request leaf).mp holds)
  · refine imp_congr Iff.rfl (imp_congr (by simp only [not_exists, not_and, ne_eq]) ?_)
    constructor
    · intro some
      obtain ⟨clause, ⟨term, member, isShould, rfl⟩, holds⟩ := some
      exact ⟨term, member, isShould, (holds_fanout_iff term request leaf).mp holds⟩
    · intro some
      obtain ⟨term, member, isShould, matching⟩ := some
      exact ⟨_, ⟨term, member, isShould, rfl⟩, (holds_fanout_iff term request leaf).mpr matching⟩

/-!
## Markers
-/

theorem polarity_of_token {search token : String} {term : Term}
    (member : token ∈ Token.tokenize search) (read : ofToken token = .ok term) :
    term.polarity =
      if token.toList.head? = some '+' then .must
      else if token.toList.head? = some '-' then .mustNot
      else .should := by
  obtain ⟨chars, isToken, rfl⟩ := List.mem_map.mp member
  obtain ⟨notEmpty, ⟨rest, found⟩, _⟩ := Token.tokenAt_of_mem isToken
  obtain ⟨_, rfl⟩ := (ofToken_eq_ok_iff _ _).mp read
  rw [String.toList_ofList, found.trim_eq notEmpty]
  exact splitMarker_polarity chars

theorem known_of_extract {search : String} {terms : List Term}
    (found : (extract search).value = .ok terms) {term : Term} (member : term ∈ terms) :
    term.polarity ∈ [Polarity.must, .should, .mustNot] := by
  obtain ⟨_, _, read⟩ := (mem_of_extract found).mp member
  exact known_of_token read

section Token

variable {search token : String} {term : Term} (member : token ∈ Token.tokenize search)
  (read : ofToken token = .ok term)

include member read

theorem polarity_eq_must_iff : term.polarity = .must ↔ token.toList.head? = some '+' := by
  rw [polarity_of_token member read]
  constructor
  · intro isMust
    split at isMust
    · assumption
    · split at isMust <;> cases isMust
  · intro plus
    rw [if_pos plus]

theorem polarity_eq_mustNot_iff : term.polarity = .mustNot ↔ token.toList.head? = some '-' := by
  rw [polarity_of_token member read]
  constructor
  · intro isMustNot
    split at isMustNot
    · cases isMustNot
    · split at isMustNot
      · assumption
      · cases isMustNot
  · intro minus
    rw [if_neg (by rw [minus]; decide), if_pos minus]

theorem polarity_eq_should_iff :
    term.polarity = .should ↔
      token.toList.head? ≠ some '+' ∧ token.toList.head? ≠ some '-' := by
  rw [polarity_of_token member read]
  constructor
  · intro isShould
    split at isShould
    · cases isShould
    · rename_i notPlus
      split at isShould
      · cases isShould
      · rename_i notMinus
        exact ⟨notPlus, notMinus⟩
  · intro neither
    rw [if_neg neither.1, if_neg neither.2]

end Token

section Search

variable {search : String} {terms : List Term} (found : (extract search).value = .ok terms)
  {term : Term}

include found

theorem mem_polarity_iff {polarity : Polarity} {starts : String → Prop}
    (isStart : ∀ token ∈ Token.tokenize search, ofToken token = .ok term →
      (term.polarity = polarity ↔ starts token)) :
    (∃ token ∈ Token.tokenize search, ofToken token = .ok term ∧ starts token) ↔
      term ∈ terms ∧ term.polarity = polarity := by
  constructor
  · intro starting
    obtain ⟨token, isToken, read, starts⟩ := starting
    exact ⟨(mem_of_extract found).mpr ⟨token, isToken, read⟩,
      (isStart token isToken read).mpr starts⟩
  · intro isTerm
    obtain ⟨member, isPolarity⟩ := isTerm
    obtain ⟨token, isToken, read⟩ := (mem_of_extract found).mp member
    exact ⟨token, isToken, read, (isStart token isToken read).mp isPolarity⟩

theorem marked_plus_iff : Marked search '+' term ↔ term ∈ terms ∧ term.polarity = .must :=
  mem_polarity_iff found fun _ member read => polarity_eq_must_iff member read

theorem marked_minus_iff : Marked search '-' term ↔ term ∈ terms ∧ term.polarity = .mustNot :=
  mem_polarity_iff found fun _ member read => polarity_eq_mustNot_iff member read

theorem optional_iff : Optional search term ↔ term ∈ terms ∧ term.polarity = .should :=
  mem_polarity_iff found fun _ member read => polarity_eq_should_iff member read

end Search

/-- What a text search means. A term whose token starts with a plus sign has to match, one whose
token starts with a minus sign must not, and if there are others and none with a plus sign, some of
the others has to match. -/
theorem compose_holds_iff_marked_match (request : SearchRequest) (terms : List Term)
    (found : (extract request.search).value = .ok terms) (leaf : Clause → Bool) :
    (compose terms request).holds leaf = true ↔
      (∀ term, Marked request.search '+' term → term.Matches request leaf) ∧
      (∀ term, Marked request.search '-' term → ¬ term.Matches request leaf) ∧
      ((∃ term, Optional request.search term) → (¬ ∃ term, Marked request.search '+' term) →
        ∃ term, Optional request.search term ∧ term.Matches request leaf) := by
  rw [holds_compose_iff fun term member => known_of_extract found member]
  simp only [marked_plus_iff found, marked_minus_iff found, optional_iff found, and_imp,
    and_assoc, not_exists, not_and, ne_eq]

theorem compose_holds_iff_three_markers :
    let request : SearchRequest :=
      { search := "+a \"b c\" -d", parts := ["body"], limitFields := ["title", "parts.body"] }
    let terms : List Term := [⟨"a", .must, .fuzzy⟩, ⟨"b c", .should, .phrase⟩, ⟨"d", .mustNot, .fuzzy⟩]
    (extract request.search).value = .ok terms ∧
      ∀ leaf : Clause → Bool, (compose terms request).holds leaf = true ↔
        (∀ term, Marked request.search '+' term → term.Matches request leaf) ∧
        (∀ term, Marked request.search '-' term → ¬ term.Matches request leaf) ∧
        ((∃ term, Optional request.search term) → (¬ ∃ term, Marked request.search '+' term) →
          ∃ term, Optional request.search term ∧ term.Matches request leaf) := by
  intro request terms
  have isWritten : request.search = writeSearch terms := by decide +kernel
  have found : (extract request.search).value = .ok terms := by
    rw [isWritten]
    exact extract_writeSearch (by decide) (by decide +kernel)
  exact ⟨found, compose_holds_iff_marked_match request terms found⟩

end SearchQuery.Term
