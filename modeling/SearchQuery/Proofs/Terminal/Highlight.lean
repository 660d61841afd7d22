import SearchQuery.Proofs.Terminal.JsonSpans
import SearchQuery.Proofs.Terminal.TomlSpans

/-!
# Colours removed

A terminal shows what is left of a text without its escape sequences, each of which goes from an
escape character to the next letter m (`strip`). Of a highlighted text this is the text itself,
unless the text brings escape characters of its own.
-/

set_option autoImplicit false

namespace SearchQuery.Terminal

def IsSequence (text : List Char) : Prop :=
  ∃ body, text = '\x1b' :: (body ++ ['m']) ∧ 'm' ∉ body

theorem Colour.isSequence_sequence (colour : Colour) : IsSequence colour.sequence := by
  refine ⟨"[38;2;".toList ++ colour.parts.toList, ?_, ?_⟩
  · rfl
  · cases colour <;> decide

theorem isSequence_reset : IsSequence reset.toList :=
  ⟨['[', '0'], rfl, by decide⟩

theorem stripFrom_inside {body : List Char} (goesOn : 'm' ∉ body) (rest : List Char) :
    stripFrom true (body ++ 'm' :: rest) = stripFrom false rest := by
  induction body with
  | nil => rfl
  | cons c body ih =>
    rw [List.mem_cons, not_or] at goesOn
    have notEnd : (c != 'm') = true := bne_iff_ne.mpr (Ne.symm goesOn.1)
    rw [List.cons_append, stripFrom, notEnd]
    exact ih goesOn.2

theorem IsSequence.stripFrom_append {sequence : List Char}
    (isSequence : IsSequence sequence) (rest : List Char) :
    stripFrom false (sequence ++ rest) = stripFrom false rest := by
  obtain ⟨body, rfl, goesOn⟩ := isSequence
  rw [List.cons_append, List.append_assoc, stripFrom, if_pos (by simp)]
  exact stripFrom_inside goesOn rest

theorem stripFrom_append {text : List Char} (noEscape : '\x1b' ∉ text)
    (rest : List Char) :
    stripFrom false (text ++ rest) = text ++ stripFrom false rest := by
  induction text with
  | nil => rfl
  | cons c text ih =>
    rw [List.mem_cons, not_or] at noEscape
    have plain : (c == '\x1b') = false := beq_eq_false_iff_ne.mpr (Ne.symm noEscape.1)
    rw [List.cons_append, stripFrom, plain, Bool.false_and, if_neg Bool.false_ne_true,
      ih noEscape.2]
    rfl

/-- Of a text, wherever it stands, this is left without the escape sequences. -/
def Sheds (text seen : List Char) : Prop :=
  ∀ rest, stripFrom false (text ++ rest) = seen ++ stripFrom false rest

theorem sheds_plain {text : List Char} (noEscape : '\x1b' ∉ text) : Sheds text text :=
  stripFrom_append noEscape

theorem IsSequence.sheds {sequence : List Char} (isSequence : IsSequence sequence) :
    Sheds sequence [] :=
  isSequence.stripFrom_append

theorem Sheds.append {first firstSeen second secondSeen : List Char} (sheds : Sheds first firstSeen)
    (alsoSheds : Sheds second secondSeen) : Sheds (first ++ second) (firstSeen ++ secondSeen) := by
  intro rest
  rw [List.append_assoc, sheds, alsoSheds, List.append_assoc]

theorem Sheds.strip_eq {text seen : String} (sheds : Sheds text.toList seen.toList) :
    strip text = seen := by
  have whole := sheds []
  rw [List.append_nil, stripFrom, List.append_nil] at whole
  rw [strip, whole, String.ofList_toList]

theorem sheds_styled {start text : String} (codes : Sheds start.toList [])
    (noEscape : '\x1b' ∉ text.toList) : Sheds (styled start text).toList text.toList := by
  have whole := (codes.append (sheds_plain noEscape)).append isSequence_reset.sheds
  rwa [List.append_nil, List.nil_append, ← String.toList_append, ← String.toList_append] at whole

theorem sheds_header {text : String} (noEscape : '\x1b' ∉ text.toList) :
    Sheds (header text).toList text.toList := by
  have bold : IsSequence "\x1b[1m".toList := ⟨['[', '1'], rfl, by decide⟩
  have cyan : IsSequence "\x1b[36m".toList := ⟨['[', '3', '6'], rfl, by decide⟩
  exact sheds_styled (bold.sheds.append cyan.sheds) noEscape

theorem sheds_dim {text : String} (noEscape : '\x1b' ∉ text.toList) :
    Sheds (dim text).toList text.toList :=
  sheds_styled (IsSequence.sheds ⟨['[', '2'], rfl, by decide⟩) noEscape

theorem sheds_warning {text : String} (noEscape : '\x1b' ∉ text.toList) :
    Sheds (warning text).toList text.toList :=
  sheds_styled (IsSequence.sheds ⟨['[', '3', '3'], rfl, by decide⟩) noEscape

theorem sheds_flatMap_shown {spans : List Span} (noEscape : '\x1b' ∉ spans.flatMap Span.text) :
    Sheds (spans.flatMap Span.shown) (spans.flatMap Span.text) := by
  induction spans with
  | nil => exact fun _ => rfl
  | cons span spans ih =>
    rw [List.flatMap_cons, List.mem_append, not_or] at noEscape
    rw [List.flatMap_cons, List.flatMap_cons]
    exact (span.colour.isSequence_sequence.sheds.append (sheds_plain noEscape.1)).append
      (ih noEscape.2)

theorem strip_highlight (grammar : Grammar) {text : String} (noEscape : '\x1b' ∉ text.toList) :
    strip (highlight grammar text) = text := by
  rw [← grammar.flatMap_text_spans text.toList] at noEscape
  have sheds := (sheds_flatMap_shown noEscape).append isSequence_reset.sheds
  rw [List.append_nil, grammar.flatMap_text_spans] at sheds
  refine Sheds.strip_eq ?_
  rwa [highlight, String.toList_append, String.toList_ofList]

theorem grammarNamed_cases (name : String) :
    grammarNamed name = json ∨ grammarNamed name = toml ∨ grammarNamed name = plainText := by
  unfold grammarNamed
  split
  · exact .inl rfl
  split
  · exact .inr (.inl rfl)
  · exact .inr (.inr rfl)

theorem splitsLines_spans_grammarNamed (name : String) (text : List Char) :
    (grammarNamed name).SplitsLines (grammarNamed name).start (Text.linesWithEndings text)
      ((grammarNamed name).spans text) := by
  obtain named | named | named := grammarNamed_cases name
  · rw [named]
    exact measured_json.splitsLines_spans text
  · rw [named]
    exact measured_toml.splitsLines_spans text
  · rw [named]
    exact measured_plainText.splitsLines_spans text

/-- Highlighting adds colours and nothing else, in any grammar: without the escape sequences a text
is as it was. In the grammar of any name, every line is cut into its spans from its start to its
end. -/
theorem highlight_adds_colours (text : String) (noEscape : '\x1b' ∉ text.toList) :
    (∀ grammar : Grammar, strip (highlight grammar text) = text ∧
      ∃ shown, highlight grammar text = shown ++ reset) ∧
    ∀ name, (grammarNamed name).SplitsLines (grammarNamed name).start
      (Text.linesWithEndings text.toList) ((grammarNamed name).spans text.toList) := by
  refine ⟨fun grammar => ⟨strip_highlight grammar noEscape, _, rfl⟩, fun name => ?_⟩
  exact splitsLines_spans_grammarNamed name text.toList

/-- A string with an unknown escape that is not closed on its line, a carriage return, a point with
no digit behind it, and no line feed at the end. -/
theorem highlight_adds_colours_malformed :
    let grammar := grammarNamed "json"
    let text := "[\"a\\q\r\n1.5, -2., tru"
    '\x1b' ∉ text.toList ∧ strip (highlight grammar text) = text ∧
      grammar.SplitsLines grammar.start (Text.linesWithEndings text.toList)
        (grammar.spans text.toList) := by
  intro grammar text
  have noEscape : '\x1b' ∉ text.toList := by decide
  obtain ⟨coloured, splits⟩ := highlight_adds_colours text noEscape
  exact ⟨noEscape, (coloured grammar).1, splits "json"⟩

end SearchQuery.Terminal
