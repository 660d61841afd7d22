import SearchQuery.Proofs.Command.Tokens
import SearchQuery.Proofs.Terminal.Highlight

/-!
# Columns of the token table

The cells of a row are filled up with blanks, so that what stands before the way of matching has the
same width in every row whose token is short enough (`length_margin`). The way of matching itself is
filled up together with the codes of its style, which are not seen and leave no room for blanks
(`cell_dim_mode`). So the words of two rows start at the same column just when their tokens are
matched in the same way (`aligned_iff`).
-/

set_option autoImplicit false

namespace SearchQuery

namespace Text

theorem exists_digit_of_mem {base n : Nat} (large : 1 < base) {c : Char}
    (member : c ∈ Nat.toDigits base n) : ∃ digit < base, c = digit.digitChar := by
  induction n using Nat.strongRecOn with
  | ind n ih =>
    by_cases small : n < base
    · rw [Nat.toDigits_of_lt_base small] at member
      exact ⟨n, small, List.mem_singleton.mp member⟩
    · rw [Nat.toDigits_of_base_le large (Nat.le_of_not_lt small), List.mem_append] at member
      rcases member with earlier | last
      · exact ih (n / base) (Nat.div_lt_self (by omega) large) earlier
      · exact ⟨n % base, Nat.mod_lt n (by omega), List.mem_singleton.mp last⟩

theorem escape_not_mem_toDigits {base : Nat} (large : 1 < base) (small : base ≤ 16) (n : Nat) :
    '\x1b' ∉ Nat.toDigits base n := by
  have noDigit : ∀ digit < 16, '\x1b' ≠ digit.digitChar := by decide
  intro member
  obtain ⟨digit, below, same⟩ := exists_digit_of_mem large member
  exact noDigit digit (by omega) same

theorem escape_not_mem_quoteChar {c : Char} (notEscape : c ≠ '\x1b') : '\x1b' ∉ quoteChar c := by
  have notItself : '\x1b' ∉ [c] := fun member => notEscape (List.mem_singleton.mp member).symm
  have notSpelled : '\x1b' ∉ spellCode c := by
    have noDigit := escape_not_mem_toDigits (by decide : 1 < 16) (by decide) c.toNat
    simpa [spellCode] using noDigit
  fun_cases quoteChar c with
  | case1 | case2 | case3 | case4 | case5 | case6 => decide
  | case7 => exact notItself
  | case8 => exact notSpelled
  | case9 => exact notItself

theorem escape_not_mem_quoted {text : String} (noEscape : '\x1b' ∉ text.toList) :
    '\x1b' ∉ (quoted text).toList := by
  have notWithin : '\x1b' ∉ text.toList.flatMap quoteChar := by
    intro member
    obtain ⟨c, inText, spelled⟩ := List.mem_flatMap.mp member
    exact escape_not_mem_quoteChar (fun same => noEscape (same ▸ inText)) spelled
  simpa [quoted] using notWithin

end Text

namespace Command

open SearchQuery.Token (tokenize)
open SearchQuery.Terminal

namespace TokenReport

/-!
## Rows
-/

theorem length_cell (width : Nat) (text : String) :
    (cell width text).length = max width text.length := by
  rw [cell, String.length_ofList, Text.length_padEnd, String.length_toList]

theorem escape_not_mem_cell {text : String} (noEscape : '\x1b' ∉ text.toList) (width : Nat) :
    '\x1b' ∉ (cell width text).toList := by
  simpa [cell, Text.padEnd] using noEscape

/-- The codes of the style use up the width of the cell. -/
theorem cell_dim_mode (mode : MatchMode) : cell 20 (dim mode.key) = dim mode.key := by
  cases mode <;> decide

/-- What stands in a row before the way of matching. -/
def margin (token : String) (polarity : Polarity) : String :=
  "  " ++ cell 28 token ++ " " ++ cell 9 polarity.key ++ " "

theorem row_term (token : String) (term : Term) :
    row ⟨token, .ok term⟩ =
      margin token term.polarity ++ dim term.mode.key ++ " " ++ term.word := by
  simp only [row, margin, cell_dim_mode, String.append_assoc]

/-- What is seen of a row: all of it but the codes of the styles. -/
def seen (report : TokenReport) : String :=
  match report.result with
  | .ok term => margin report.token term.polarity ++ term.mode.key ++ " " ++ term.word
  | .error error => "  " ++ cell 28 report.token ++ " " ++ error.message

/-- The word of a row, if it has one, starts at a column: so many characters are seen before it. -/
def WordFrom (column : Nat) (report : TokenReport) : Prop :=
  ∀ term, report.result = .ok term →
    ∃ before : String, report.seen = before ++ term.word ∧ before.length = column

/-- The words of all rows start at the same column. -/
def Aligned (reports : List TokenReport) : Prop :=
  ∃ column, ∀ report ∈ reports, WordFrom column report

def wordColumn (mode : MatchMode) : Nat :=
  42 + mode.key.length

theorem length_margin {token : String} (short : token.length ≤ 28) {polarity : Polarity}
    (known : polarity ∈ [Polarity.must, .should, .mustNot]) : (margin token polarity).length = 41 := by
  have narrow : ∀ known ∈ [Polarity.must, .should, .mustNot], known.key.length ≤ 9 := by decide
  have keyLength := narrow polarity known
  simp only [margin, String.length_append, length_cell, Nat.max_eq_left short,
    Nat.max_eq_left keyLength]
  decide

theorem row_error (token : String) (error : EmptyToken) :
    row ⟨token, .error error⟩ = "  " ++ cell 28 token ++ " " ++ warning error.message :=
  rfl

theorem seen_error (token : String) (error : EmptyToken) :
    seen ⟨token, .error error⟩ = "  " ++ cell 28 token ++ " " ++ error.message :=
  rfl

theorem seen_term (token : String) (term : Term) :
    seen ⟨token, .ok term⟩ = margin token term.polarity ++ term.mode.key ++ " " ++ term.word :=
  rfl

theorem length_beforeWord {token : String} {term : Term} (read : Term.ofToken token = .ok term)
    (short : token.length ≤ 28) :
    (margin token term.polarity ++ term.mode.key ++ " ").length = wordColumn term.mode := by
  have blank : " ".length = 1 := by decide
  rw [String.length_append, String.length_append, length_margin short (Term.known_of_token read),
    blank, wordColumn]
  omega

theorem wordFrom_iff {token : String} {term : Term} (read : Term.ofToken token = .ok term)
    (short : token.length ≤ 28) (column : Nat) :
    WordFrom column ⟨token, .ok term⟩ ↔ column = wordColumn term.mode := by
  have wide := length_beforeWord read short
  constructor
  · intro starts
    obtain ⟨before, whole, isColumn⟩ := starts term rfl
    rw [seen_term] at whole
    have lengths := congrArg String.length whole
    rw [String.length_append, String.length_append before, wide, isColumn] at lengths
    exact (Nat.add_right_cancel lengths).symm
  · rintro rfl other same
    cases same
    exact ⟨_, seen_term token term, wide⟩

theorem mem_analyze_iff (search token : String) (result : Except EmptyToken Term) :
    ⟨token, result⟩ ∈ analyze search ↔ token ∈ tokenize search ∧ Term.ofToken token = result := by
  simp only [analyze, List.mem_map, TokenReport.mk.injEq]
  constructor
  · rintro ⟨_, isToken, rfl, rfl⟩
    exact ⟨isToken, rfl⟩
  · rintro ⟨isToken, rfl⟩
    exact ⟨token, isToken, rfl, rfl⟩

theorem mem_terms_iff (search : String) (term : Term) :
    term ∈ (analyze search).filterMap term? ↔
      ∃ token ∈ tokenize search, Term.ofToken token = .ok term := by
  have isTerm (result : Except EmptyToken Term) :
      result.toOption = some term ↔ result = .ok term := by
    cases result <;> simp [Except.toOption]
  simp only [filterMap_analyze, List.mem_filterMap, isTerm]

theorem wordColumn_injective {mode other : MatchMode} (same : wordColumn mode = wordColumn other) :
    mode = other := by
  cases mode <;> cases other
  · rfl
  · exact absurd same (by decide)
  · exact absurd same (by decide)
  · rfl

section

variable {search : String} (short : ∀ token ∈ tokenize search, token.length ≤ 28)

include short

theorem forall_wordFrom_iff (column : Nat) :
    (∀ report ∈ analyze search, WordFrom column report) ↔
      ∀ term ∈ (analyze search).filterMap term?, column = wordColumn term.mode := by
  constructor
  · intro starts term member
    obtain ⟨token, isToken, read⟩ := (mem_terms_iff search term).mp member
    have here := starts _ ((mem_analyze_iff search token _).mpr ⟨isToken, read⟩)
    exact (wordFrom_iff read (short token isToken) column).mp here
  · intro columns report member term isTerm
    obtain ⟨token, result⟩ := report
    obtain ⟨isToken, read⟩ := (mem_analyze_iff search token result).mp member
    obtain rfl : result = .ok term := isTerm
    have isColumn := columns term ((mem_terms_iff search term).mpr ⟨token, isToken, read⟩)
    exact (wordFrom_iff read (short token isToken) column).mpr isColumn term rfl

/-- The way of matching of a term decides where its word starts, so that the words are aligned only
if all terms are matched in the same way. -/
theorem aligned_iff :
    Aligned (analyze search) ↔
      ∀ term ∈ (analyze search).filterMap term?, ∀ other ∈ (analyze search).filterMap term?,
        term.mode = other.mode := by
  simp only [Aligned, forall_wordFrom_iff short]
  constructor
  · intro aligned term member other isOther
    obtain ⟨column, columns⟩ := aligned
    exact wordColumn_injective ((columns term member).symm.trans (columns other isOther))
  · intro same
    cases terms : (analyze search).filterMap term? with
    | nil => exact ⟨0, List.forall_mem_nil _⟩
    | cons first others =>
      rw [terms] at same
      exact ⟨wordColumn first.mode, fun term member =>
        congrArg wordColumn (same first List.mem_cons_self term member)⟩

end

/-!
## The table without its codes
-/

/-- What is seen of the table. -/
def seenTable (reports : List TokenReport) : String :=
  reports.foldl (fun table report => table ++ report.seen ++ "\n")
    ("Tokens (" ++ String.ofList (Nat.toDigits 10 reports.length) ++ ")" ++ "\n")

theorem escape_not_mem_margin {token : String} (noEscape : '\x1b' ∉ token.toList)
    {polarity : Polarity} (known : polarity ∈ [Polarity.must, .should, .mustNot]) :
    '\x1b' ∉ (margin token polarity).toList := by
  have plain : ∀ known ∈ [Polarity.must, .should, .mustNot], '\x1b' ∉ known.key.toList := by decide
  simp only [margin, String.toList_append, List.mem_append, not_or]
  exact ⟨⟨⟨⟨by decide, escape_not_mem_cell noEscape 28⟩, by decide⟩,
    escape_not_mem_cell (plain polarity known) 9⟩, by decide⟩

theorem sheds_row {token : String} {result : Except EmptyToken Term}
    (read : Term.ofToken token = result) (noEscape : '\x1b' ∉ token.toList) :
    Sheds (row ⟨token, result⟩).toList (seen ⟨token, result⟩).toList := by
  have blank : '\x1b' ∉ " ".toList := by decide
  cases result with
  | ok term =>
    have plainMode : '\x1b' ∉ term.mode.key.toList := by cases term.mode <;> decide
    have plainWord : '\x1b' ∉ term.word.toList := fun member =>
      noEscape (Term.mem_token_of_mem_word read member)
    have plainMargin := escape_not_mem_margin noEscape (Term.known_of_token read)
    rw [row_term, seen_term]
    simp only [String.toList_append]
    exact (((sheds_plain plainMargin).append (sheds_dim plainMode)).append
      (sheds_plain blank)).append (sheds_plain plainWord)
  | error error =>
    have plainMessage : '\x1b' ∉ error.message.toList := by
      rw [Term.ofToken_eq_error read, EmptyToken.message]
      simp only [String.toList_append, List.mem_append, not_or]
      exact ⟨⟨by decide, Text.escape_not_mem_quoted noEscape⟩, by decide⟩
    have plainCell := escape_not_mem_cell noEscape 28
    rw [row_error, seen_error]
    simp only [String.toList_append]
    exact (((sheds_plain (by decide)).append (sheds_plain plainCell)).append
      (sheds_plain blank)).append (sheds_warning plainMessage)

/-- Row by row, what has been printed so far sheds its codes. -/
theorem sheds_rows {reports : List TokenReport}
    (rows : ∀ report ∈ reports, Sheds report.row.toList report.seen.toList)
    {table seenSoFar : String} (sheds : Sheds table.toList seenSoFar.toList) :
    Sheds (reports.foldl (fun table report => table ++ report.row ++ "\n") table).toList
      (reports.foldl (fun table report => table ++ report.seen ++ "\n") seenSoFar).toList := by
  have lineFeed : Sheds "\n".toList "\n".toList := sheds_plain (by decide)
  induction reports generalizing table seenSoFar with
  | nil => exact sheds
  | cons report reports ih =>
    obtain ⟨here, others⟩ := List.forall_mem_cons.mp rows
    have longer := (sheds.append here).append lineFeed
    simp only [← String.toList_append] at longer
    exact ih others longer

/-- The codes of the table come off with nothing else, unless a token brings codes of its own. -/
theorem strip_tokenTable {search : String}
    (noEscape : ∀ token ∈ tokenize search, '\x1b' ∉ token.toList) :
    strip (tokenTable (analyze search)) = seenTable (analyze search) := by
  have rows : ∀ report ∈ analyze search, Sheds report.row.toList report.seen.toList := by
    intro report member
    obtain ⟨token, result⟩ := report
    obtain ⟨isToken, read⟩ := (mem_analyze_iff search token result).mp member
    exact sheds_row read (noEscape token isToken)
  have plainHeading (count : Nat) :
      '\x1b' ∉ ("Tokens (" ++ String.ofList (Nat.toDigits 10 count) ++ ")").toList := by
    simp only [String.toList_append, String.toList_ofList, List.mem_append, not_or]
    exact ⟨⟨by decide, Text.escape_not_mem_toDigits (by decide) (by decide) count⟩, by decide⟩
  have lineFeed : Sheds "\n".toList "\n".toList := sheds_plain (by decide)
  have heading := (sheds_header (plainHeading (analyze search).length)).append lineFeed
  simp only [← String.toList_append] at heading
  exact Sheds.strip_eq (sheds_rows rows heading)

end TokenReport

/-- In the table of some words, each of whose tokens fits into its column, the word of a term starts
at one of two columns, and which one depends on how the term is matched. So the words are aligned
just when all terms are matched in the same way. What is seen of a row is the row without the codes
of its style, and of the table, if no token brings codes of its own, the table without all codes. -/
theorem word_columns_by_mode {session : Session} {settings : Settings} {words : List String}
    (loaded : session.load session.cwd = .ok settings)
    (short : ∀ token ∈ tokenize (" ".intercalate words), token.length ≤ 28) :
    let search := " ".intercalate words
    let reports := TokenReport.analyze search
    (∀ verbosity, (Invocation.run session
      ⟨verbosity, .inquire (.tokens ⟨words, false⟩)⟩).output = tokenTable reports) ∧
    ((∀ token ∈ tokenize search, '\x1b' ∉ token.toList) →
      strip (tokenTable reports) = TokenReport.seenTable reports) ∧
    (∀ report ∈ reports, ∀ term, report.result = .ok term →
      (∃ before : String, report.row = before ++ dim term.mode.key ++ " " ++ term.word ∧
        report.seen = before ++ term.mode.key ++ " " ++ term.word) ∧
      ∀ column, report.WordFrom column ↔
        column = match term.mode with
          | .phrase => 54
          | .fuzzy => 61) ∧
    (TokenReport.Aligned reports ↔
      ∀ term ∈ reports.filterMap TokenReport.term?,
        ∀ other ∈ reports.filterMap TokenReport.term?, term.mode = other.mode) := by
  intro search reports
  refine ⟨fun verbosity => Outcome.output_eq (answer_tokens loaded verbosity ⟨words, false⟩),
    TokenReport.strip_tokenTable, fun report member term isTerm => ?_,
    TokenReport.aligned_iff short⟩
  obtain ⟨token, result⟩ := report
  obtain ⟨isToken, read⟩ := (TokenReport.mem_analyze_iff search token result).mp member
  obtain rfl : result = .ok term := isTerm
  refine ⟨⟨_, TokenReport.row_term token term, TokenReport.seen_term token term⟩, fun column => ?_⟩
  rw [TokenReport.wordFrom_iff read (short token isToken)]
  cases term.mode <;> rfl

/-- Two words, a token that is passed over, and a token as long as its column. -/
theorem word_columns_by_mode_words_only :
    let words := ["+rust", "-", "aaaaaaaaaaaaaaaaaaaaaaaaaaaa"]
    let reports := TokenReport.analyze "+rust - aaaaaaaaaaaaaaaaaaaaaaaaaaaa"
    (∀ token ∈ tokenize (" ".intercalate words), token.length ≤ 28) ∧
    (Invocation.run indexedPlace ⟨0, .inquire (.tokens ⟨words, false⟩)⟩).output =
      tokenTable reports ∧
    strip (tokenTable reports) = TokenReport.seenTable reports ∧
    TokenReport.Aligned reports := by
  intro words reports
  let settings : Settings := { indexName := some "docs", root := some ⟨"/work"⟩ }
  have loaded : indexedPlace.load indexedPlace.cwd = .ok settings := by decide +kernel
  have joined : " ".intercalate words = "+rust - aaaaaaaaaaaaaaaaaaaaaaaaaaaa" := by decide +kernel
  have short : ∀ token ∈ tokenize (" ".intercalate words), token.length ≤ 28 := by decide +kernel
  have noEscape : ∀ token ∈ tokenize (" ".intercalate words), '\x1b' ∉ token.toList := by
    decide +kernel
  have sameMode : ∀ term ∈ reports.filterMap TokenReport.term?,
      ∀ other ∈ reports.filterMap TokenReport.term?, term.mode = other.mode := by decide +kernel
  obtain ⟨printed, shown, -, aligned⟩ := word_columns_by_mode loaded short
  rw [joined] at printed shown aligned noEscape
  exact ⟨short, printed 0, shown noEscape, aligned.mpr sameMode⟩

/-- A word and a phrase in one table start at different columns. -/
theorem word_and_phrase_not_aligned :
    let search := "+rust \"big world\""
    (∀ token ∈ tokenize search, token.length ≤ 28) ∧
    strip (tokenTable (TokenReport.analyze search)) =
      "Tokens (2)\n" ++
      "  +rust                        must      match_phrase_prefix rust\n" ++
      "  \"big world\"                  should    match_phrase big world\n" ∧
    ¬ TokenReport.Aligned (TokenReport.analyze search) := by
  intro search
  have short : ∀ token ∈ tokenize search, token.length ≤ 28 := by decide +kernel
  have mixed : ¬ ∀ term ∈ (TokenReport.analyze search).filterMap TokenReport.term?,
      ∀ other ∈ (TokenReport.analyze search).filterMap TokenReport.term?,
        term.mode = other.mode := by decide +kernel
  have noEscape : ∀ token ∈ tokenize search, '\x1b' ∉ token.toList := by decide +kernel
  refine ⟨short, ?_, fun aligned => mixed ((TokenReport.aligned_iff short).mp aligned)⟩
  rw [TokenReport.strip_tokenTable noEscape]
  decide +kernel

end Command

end SearchQuery
