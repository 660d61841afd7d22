import Mathlib.Tactic.SplitIfs
import SearchQuery.Toml.Text
import SearchQuery.Toml.Writer

/-!
# Strings are read back

A string is read back from the form that is chosen for it (`readString?_writeString`), whatever
characters it has, provided that no further quote follows. Between double quotes an escape is taken
back for the character that it stands for (`escapeChar_cases`); the other forms hold texts only that
need no escapes (`formFits`). What takes care with three quotes is that a text may have quotes of
their kind: no three of them are written in a row, but up to two may stand before the closing ones
(`readLongBasic?_escape`, `readLongLiteral?_append`).
-/

set_option autoImplicit false

namespace SearchQuery.Toml

/-- What stands behind a backslash in place of a character. No string goes on in another line
there. -/
structure Spells (code : List Char) (c : Char) : Prop where
  read : ∀ rest, readEscape? (code ++ rest) = some (c, rest)
  notFolded : ∀ rest, foldedLine? (code ++ rest) = none

theorem hexNumber?_control : ∀ n < 0x80,
    Text.hexNumber? 0 ['0', '0', upperHexDigit (n / 16), upperHexDigit (n % 16)] = some n := by
  decide

theorem spells_control {c : Char} (control : needsEscape c = true) :
    Spells ['u', '0', '0', upperHexDigit (c.toNat / 16), upperHexDigit (c.toNat % 16)] c where
  read rest := by
    have small : c.toNat < 0x80 := by
      simp only [needsEscape, Bool.and_eq_true, Bool.or_eq_true, decide_eq_true_eq,
        beq_iff_eq] at control
      rcases control.2 with low | rfl
      · omega
      · decide
    have valid : c.toNat.isValidChar := c.valid
    simp only [List.cons_append, List.nil_append, readEscape?, readCode?, List.length_cons,
      List.take_succ_cons, List.take_zero, hexNumber?_control c.toNat small, valid, if_true,
      List.drop_succ_cons, List.drop_zero, Char.ofNat_toNat]
    rw [if_neg (by omega)]
  notFolded rest := rfl

theorem isPrintable_of_not_needsEscape {c : Char} (notBreak : c ≠ '\n')
    (notControl : needsEscape c = false) : isPrintable c = true := by
  simp only [needsEscape, Bool.and_eq_false_iff, Bool.or_eq_false_iff, bne_eq_false_iff_eq,
    decide_eq_false_iff_not, beq_eq_false_iff_ne] at notControl
  rcases notControl with (rfl | isBreak) | ⟨notLow, notDelete⟩
  · rfl
  · exact absurd isBreak notBreak
  · simp [isPrintable, notDelete, Nat.le_of_not_lt notLow]

theorem escapeChar_cases (multiLine : Bool) (c : Char) :
    (∃ code, Spells code c ∧ escapeChar multiLine c = '\\' :: code) ∨
    (c = '\n' ∧ multiLine = true ∧ escapeChar multiLine c = [c]) ∨
    (isPrintable c = true ∧ c ≠ '\\' ∧ escapeChar multiLine c = [c]) := by
  unfold escapeChar
  split_ifs with backspace tab lineFeed multiLine formFeed carriageReturn backslash control
  · exact .inl ⟨['b'], ⟨fun _ => by rw [backspace]; rfl, fun _ => rfl⟩, rfl⟩
  · exact .inl ⟨['t'], ⟨fun _ => by rw [tab]; rfl, fun _ => rfl⟩, rfl⟩
  · exact .inr (.inl ⟨lineFeed, multiLine, by rw [lineFeed]⟩)
  · exact .inl ⟨['n'], ⟨fun _ => by rw [lineFeed]; rfl, fun _ => rfl⟩, rfl⟩
  · exact .inl ⟨['f'], ⟨fun _ => by rw [formFeed]; rfl, fun _ => rfl⟩, rfl⟩
  · exact .inl ⟨['r'], ⟨fun _ => by rw [carriageReturn]; rfl, fun _ => rfl⟩, rfl⟩
  · exact .inl ⟨['\\'], ⟨fun _ => by rw [backslash]; rfl, fun _ => rfl⟩, rfl⟩
  · exact .inl ⟨_, spells_control control, rfl⟩
  · have notControl : needsEscape c = false := Bool.eq_false_iff.mpr control
    exact .inr (.inr ⟨isPrintable_of_not_needsEscape lineFeed notControl, backslash, rfl⟩)

theorem spells_quote : Spells ['"'] '"' := ⟨fun _ => rfl, fun _ => rfl⟩

theorem length_le_escape (multiLine : Bool) (allowed quotes : Nat) (text : List Char) :
    text.length ≤ (escape multiLine allowed quotes text).length := by
  induction text generalizing quotes with
  | nil => exact Nat.le_refl 0
  | cons c text ih =>
    have later := ih 0
    have laterInRun := ih (quotes + 1)
    have notEmpty : 0 < (escapeChar multiLine c).length := by
      rcases escapeChar_cases multiLine c with ⟨_, _, form⟩ | ⟨_, _, form⟩ | ⟨_, _, form⟩
      all_goals simp [form]
    rw [escape]
    split_ifs
    all_goals
      simp only [List.length_cons, List.length_append]
      omega

/-! ## On one line -/

theorem readBasic?_escaped {code : List Char} {c : Char} (spells : Spells code c) (steps : Nat)
    (rest : List Char) :
    readBasic? (steps + 1) ('\\' :: code ++ rest) =
      (readBasic? steps rest).map (consRead c) := by
  rw [List.cons_append, readBasic?, spells.read]

theorem readBasic?_escapeChar {c : Char} (notQuote : c ≠ '"') (steps : Nat) (rest : List Char) :
    readBasic? (steps + 1) (escapeChar false c ++ rest) =
      (readBasic? steps rest).map (consRead c) := by
  rcases escapeChar_cases false c with ⟨code, spells, form⟩ | ⟨_, onLines, _⟩ |
    ⟨printable, notBackslash, form⟩
  · rw [form]
    exact readBasic?_escaped spells steps rest
  · exact absurd onLines Bool.false_ne_true
  · rw [form, List.singleton_append, readBasic?.eq_5 steps c rest notQuote notBackslash,
      if_pos printable]

/-- Each character of a text takes one step, and so does the closing quote. -/
theorem readBasic?_escape {steps : Nat} (quotes : Nat) (text rest : List Char)
    (enough : text.length < steps) :
    readBasic? steps (escape false 0 quotes text ++ '"' :: rest) = some (text, rest) := by
  obtain ⟨steps, rfl⟩ := Nat.exists_eq_add_one_of_ne_zero (Nat.ne_zero_of_lt enough)
  induction text generalizing steps quotes with
  | nil => rfl
  | cons c text ih =>
    obtain ⟨steps, rfl⟩ :=
      Nat.exists_eq_add_one_of_ne_zero (Nat.ne_zero_of_lt (Nat.lt_of_succ_lt_succ enough))
    have later := ih 0 steps (Nat.lt_of_succ_lt_succ enough)
    rw [escape]
    by_cases quote : c = '"'
    · have split : ('\\' :: '"' :: escape false 0 0 text) ++ '"' :: rest =
          '\\' :: ['"'] ++ (escape false 0 0 text ++ '"' :: rest) := rfl
      rw [if_pos quote, if_neg (Nat.not_lt_zero _), split, readBasic?_escaped spells_quote, later,
        quote]
      rfl
    · rw [if_neg quote, List.append_assoc, readBasic?_escapeChar quote, later]
      rfl

theorem readLiteral?_append {text : List Char} (printable : ∀ c ∈ text, isPrintable c = true)
    (noQuote : '\'' ∉ text) (rest : List Char) :
    readLiteral? (text ++ '\'' :: rest) = some (text, rest) := by
  induction text with
  | nil => rfl
  | cons c text ih =>
    obtain ⟨different, noneLater⟩ := not_or.mp (mt List.mem_cons.mpr noQuote)
    obtain ⟨isPrintable, printableLater⟩ := List.forall_mem_cons.mp printable
    rw [List.cons_append, readLiteral?.eq_3 c _ (Ne.symm different), if_pos isPrintable,
      ih printableLater noneLater]
    rfl

/-! ## Over several lines -/

/-- A text does not start with two quotes. -/
def NoTwoQuotes (quote : Char) (text : List Char) : Prop :=
  ∀ more, text ≠ quote :: quote :: more

/-- A text does not start with a quote. -/
def NoQuote (quote : Char) (text : List Char) : Prop :=
  ∀ more, text ≠ quote :: more

theorem readLongBasic?_plain {c : Char} (allowed : (isPrintable c || c == '\n') = true)
    (notBackslash : c ≠ '\\') {rest : List Char} (single : c = '"' → NoTwoQuotes '"' rest)
    (steps : Nat) :
    readLongBasic? (steps + 1) (c :: rest) = (readLongBasic? steps rest).map (consRead c) := by
  have notReturn : c ≠ '\r' := by
    rintro rfl
    exact absurd allowed (by decide)
  rw [readLongBasic?.eq_8 steps c rest (fun more same isTail => single same _ isTail)
    (fun more same isTail => single same _ isTail) (fun more same isTail => single same _ isTail)
    (fun more same _ => notReturn same) notBackslash, if_pos allowed]

theorem readLongBasic?_escaped {code : List Char} {c : Char} (spells : Spells code c) (steps : Nat)
    (rest : List Char) :
    readLongBasic? (steps + 1) ('\\' :: code ++ rest) =
      (readLongBasic? steps rest).map (consRead c) := by
  rw [List.cons_append, readLongBasic?.eq_7]
  simp only [spells.notFolded, spells.read]

theorem readLongBasic?_close {rest : List Char} (ends : NoQuote '"' rest) (steps : Nat) :
    readLongBasic? (steps + 1) ('"' :: '"' :: '"' :: rest) = some ([], rest) := by
  rw [readLongBasic?.eq_5 steps rest (fun more isTail => ends _ isTail)
    (fun more isTail => ends _ isTail)]

theorem readLongBasic?_close_one {rest : List Char} (ends : NoQuote '"' rest) (steps : Nat) :
    readLongBasic? (steps + 1) ('"' :: '"' :: '"' :: '"' :: rest) = some (['"'], rest) := by
  rw [readLongBasic?.eq_4 steps rest (fun more isTail => ends _ isTail)]

/-- The written form of a text starts with a quote only where one may be left as it is. -/
theorem noQuote_escape {multiLine : Bool} {allowed quotes : Nat} {c : Char}
    (escaped : c = '"' → ¬quotes < allowed) (text rest : List Char) :
    NoQuote '"' (escape multiLine allowed quotes (c :: text) ++ rest) := by
  intro more isTail
  rw [escape] at isTail
  by_cases quote : c = '"'
  · rw [if_pos quote, if_neg (escaped quote)] at isTail
    exact absurd (List.cons.inj isTail).1 (by decide)
  · rw [if_neg quote] at isTail
    rcases escapeChar_cases multiLine c with ⟨code, _, form⟩ | ⟨_, _, form⟩ | ⟨_, _, form⟩
    · rw [form] at isTail
      exact absurd (List.cons.inj isTail).1 (by decide)
    · rw [form] at isTail
      exact quote (List.cons.inj isTail).1
    · rw [form] at isTail
      exact quote (List.cons.inj isTail).1

/-- Behind a quote of a text no two quotes follow, apart from those that close the string. -/
theorem noTwoQuotes_escape {quotes : Nat} {text : List Char} (notEmpty : text ≠ [])
    (notLast : ¬(text = ['"'] ∧ quotes = 0)) (rest : List Char) :
    NoTwoQuotes '"' (escape true quotesInside (quotes + 1) text ++ rest) := by
  intro more isTail
  cases text with
  | nil => exact notEmpty rfl
  | cons c text =>
    by_cases left : c = '"' ∧ quotes + 1 < quotesInside
    · rw [escape, if_pos left.1, if_pos left.2] at isTail
      have isTail := (List.cons.inj isTail).2
      have isFirst : quotes = 0 := Nat.lt_one_iff.mp (Nat.lt_of_succ_lt_succ left.2)
      cases text with
      | nil => exact notLast ⟨by rw [left.1], isFirst⟩
      | cons c text =>
        have enough : ¬quotes + 1 + 1 < quotesInside := by
          rw [isFirst]
          decide
        exact noQuote_escape (fun _ => enough) text rest more isTail
    · exact noQuote_escape (fun quote few => left ⟨quote, few⟩) text rest ('"' :: more) isTail

theorem readLongBasic?_escapeChar {c : Char} (notQuote : c ≠ '"') (steps : Nat)
    (rest : List Char) :
    readLongBasic? (steps + 1) (escapeChar true c ++ rest) =
      (readLongBasic? steps rest).map (consRead c) := by
  rcases escapeChar_cases true c with ⟨code, spells, form⟩ | ⟨isBreak, _, form⟩ |
    ⟨printable, notBackslash, form⟩
  · rw [form]
    exact readLongBasic?_escaped spells steps rest
  · rw [form, List.singleton_append]
    exact readLongBasic?_plain (by rw [isBreak]; rfl) (by rw [isBreak]; decide)
      (fun quote => absurd quote notQuote) steps
  · rw [form, List.singleton_append]
    exact readLongBasic?_plain (by rw [printable]; rfl) notBackslash
      (fun quote => absurd quote notQuote) steps

/-- A quote that is left as it is may be one of the last two of a text. Then it is read together
with the quotes that close the string. -/
theorem readLongBasic?_escape {steps : Nat} (quotes : Nat) (text : List Char) {rest : List Char}
    (ends : NoQuote '"' rest) (enough : text.length < steps) :
    readLongBasic? steps
      (escape true quotesInside quotes text ++ '"' :: '"' :: '"' :: rest) = some (text, rest) := by
  obtain ⟨steps, rfl⟩ := Nat.exists_eq_add_one_of_ne_zero (Nat.ne_zero_of_lt enough)
  induction text generalizing steps quotes with
  | nil => exact readLongBasic?_close ends steps
  | cons c text ih =>
    obtain ⟨steps, rfl⟩ :=
      Nat.exists_eq_add_one_of_ne_zero (Nat.ne_zero_of_lt (Nat.lt_of_succ_lt_succ enough))
    have later (quotes : Nat) := ih quotes steps (Nat.lt_of_succ_lt_succ enough)
    rw [escape]
    split_ifs with quote few
    · by_cases last : text = []
      · rw [last, quote]
        exact readLongBasic?_close_one ends (steps + 1)
      · by_cases lastTwo : text = ['"'] ∧ quotes = 0
        · rw [lastTwo.1, lastTwo.2, quote]
          rfl
        · rw [List.cons_append, readLongBasic?_plain rfl (by decide)
            (fun _ => noTwoQuotes_escape last lastTwo _), later, quote]
          rfl
    · have split : ('\\' :: '"' :: escape true quotesInside 0 text) ++ '"' :: '"' :: '"' :: rest =
          '\\' :: ['"'] ++ (escape true quotesInside 0 text ++ '"' :: '"' :: '"' :: rest) := rfl
      rw [split, readLongBasic?_escaped spells_quote, later, quote]
      rfl
    · rw [List.append_assoc, readLongBasic?_escapeChar quote, later]
      rfl

theorem le_longestRun (sought : Char) (run : Nat) (text : List Char) :
    run ≤ longestRun sought run text := by
  induction text generalizing run with
  | nil => exact Nat.le_refl run
  | cons c text ih =>
    rw [longestRun]
    split
    · exact Nat.le_trans (Nat.le_succ run) (ih (run + 1))
    · exact Nat.le_max_left _ _

theorem longestRun_le_longestRun (sought : Char) {run longer : Nat} (le : run ≤ longer)
    (text : List Char) : longestRun sought run text ≤ longestRun sought longer text := by
  induction text generalizing run longer with
  | nil => exact le
  | cons c text ih =>
    rw [longestRun, longestRun]
    split
    · exact ih (Nat.succ_le_succ le)
    · omega

theorem longestRun_le_cons (sought c : Char) (text : List Char) :
    longestRun sought 0 text ≤ longestRun sought 0 (c :: text) := by
  rw [longestRun]
  split
  · exact longestRun_le_longestRun sought (Nat.zero_le 1) text
  · exact Nat.le_max_right _ _

theorem noTwoQuotes_of_longestRun {quote : Char} {text : List Char}
    (few : longestRun quote 0 (quote :: text) ≤ 2) (notEmpty : text ≠ [])
    (notOne : text ≠ [quote]) (rest : List Char) : NoTwoQuotes quote (text ++ rest) := by
  intro more isTail
  cases text with
  | nil => exact notEmpty rfl
  | cons first text =>
    obtain ⟨rfl, isTail⟩ := List.cons.inj isTail
    cases text with
    | nil => exact notOne rfl
    | cons second text =>
      obtain ⟨rfl, -⟩ := List.cons.inj isTail
      simp only [longestRun, if_true] at few
      exact absurd (Nat.le_trans (le_longestRun second 3 text) few) (by decide)

theorem readLongLiteral?_plain {c : Char} (allowed : (isPrintable c || c == '\n') = true)
    {rest : List Char} (single : c = '\'' → NoTwoQuotes '\'' rest) :
    readLongLiteral? (c :: rest) = (readLongLiteral? rest).map (consRead c) := by
  have notReturn : c ≠ '\r' := by
    rintro rfl
    exact absurd allowed (by decide)
  rw [readLongLiteral?.eq_6 c rest (fun more same isTail => single same _ isTail)
    (fun more same isTail => single same _ isTail) (fun more same isTail => single same _ isTail)
    (fun more same _ => notReturn same), if_pos allowed]

theorem readLongLiteral?_append {text : List Char}
    (allowed : ∀ c ∈ text, (isPrintable c || c == '\n') = true)
    (few : longestRun '\'' 0 text ≤ quotesInside) {rest : List Char} (ends : NoQuote '\'' rest) :
    readLongLiteral? (text ++ '\'' :: '\'' :: '\'' :: rest) = some (text, rest) := by
  induction text with
  | nil =>
    exact readLongLiteral?.eq_4 rest (fun more isTail => ends _ isTail)
      fun more isTail => ends _ isTail
  | cons c text ih =>
    obtain ⟨isAllowed, allowedLater⟩ := List.forall_mem_cons.mp allowed
    have later := ih allowedLater (Nat.le_trans (longestRun_le_cons '\'' c text) few)
    by_cases last : c = '\'' ∧ text = []
    · rw [last.1, last.2]
      exact readLongLiteral?.eq_3 rest fun more isTail => ends _ isTail
    · by_cases lastTwo : c = '\'' ∧ text = ['\'']
      · rw [lastTwo.1, lastTwo.2]
        rfl
      · have single (quote : c = '\'') : NoTwoQuotes '\'' (text ++ '\'' :: '\'' :: '\'' :: rest) :=
          noTwoQuotes_of_longestRun (quote ▸ few) (fun same => last ⟨quote, same⟩)
            (fun same => lastTwo ⟨quote, same⟩) _
        rw [List.cons_append, readLongLiteral?_plain isAllowed single, later]
        rfl

/-! ## In the form that is chosen -/

/-- A text does not start with a line break. -/
def NoBreak (text : List Char) : Prop :=
  dropBreak? text = none

theorem noBreak_cons {c : Char} (printable : isPrintable c = true) (rest : List Char) :
    NoBreak (c :: rest) := by
  refine dropBreak?.eq_3 _ (fun _ same => ?_) fun _ same => ?_
  · rw [(List.cons.inj same).1] at printable
    exact absurd printable (by decide)
  · rw [(List.cons.inj same).1] at printable
    exact absurd printable (by decide)

theorem noBreak_escape {quotes : Nat} {text : List Char} (oneLine : '\n' ∉ text)
    (rest : List Char) :
    NoBreak (escape true quotesInside quotes text ++ '"' :: rest) := by
  cases text with
  | nil => exact noBreak_cons (by decide) rest
  | cons c text =>
    rw [escape]
    split
    · split
      · exact noBreak_cons (by decide) _
      · exact noBreak_cons (by decide) _
    · rcases escapeChar_cases true c with ⟨code, _, form⟩ | ⟨isBreak, _⟩ | ⟨printable, _, form⟩
      · rw [form]
        exact noBreak_cons (by decide) _
      · exact absurd (isBreak ▸ List.mem_cons_self) oneLine
      · rw [form]
        exact noBreak_cons printable _

theorem dropFirstBreak_firstBreak {text body : List Char}
    (noBreak : '\n' ∉ text → NoBreak body) :
    dropFirstBreak (firstBreak text ++ body) = body := by
  rw [firstBreak]
  by_cases onLines : text.contains '\n' = true
  · rw [if_pos onLines]
    rfl
  · have oneLine : '\n' ∉ text := fun member => onLines (List.contains_iff_mem.mpr member)
    rw [if_neg onLines, List.nil_append, dropFirstBreak, noBreak oneLine]
    rfl

/-- What the choice of a form makes sure of. -/
inductive FormFits (text : List Char) : StringForm → Prop where
  | basic : FormFits text .basic
  | literal (allowed : ∀ c ∈ text, isPrintable c = true) (noQuote : '\'' ∉ text)
      (notEmpty : text ≠ []) : FormFits text .literal
  | longBasic : FormFits text .longBasic
  | longLiteral (allowed : ∀ c ∈ text, (isPrintable c || c == '\n') = true)
      (few : longestRun '\'' 0 text ≤ quotesInside) : FormFits text .longLiteral

theorem formFits (text : List Char) : FormFits text (formOf text) := by
  have allowed (noControls : (!text.any needsEscape) = true) (c : Char) (member : c ∈ text) :
      (isPrintable c || c == '\n') = true := by
    rw [Bool.not_eq_true', List.any_eq_false] at noControls
    by_cases isBreak : c = '\n'
    · simp [isBreak]
    · rw [isPrintable_of_not_needsEscape isBreak (Bool.eq_false_iff.mpr (noControls c member))]
      rfl
  rw [formOf]
  split_ifs with plain single few fewSingle oneLine
  · exact .basic
  · simp only [Bool.and_eq_true] at single
    obtain ⟨⟨noControls, oneLine⟩, noQuote⟩ := single
    rw [Bool.not_eq_true', List.contains_eq_mem, decide_eq_false_iff_not] at oneLine noQuote
    refine .literal (fun c member => ?_) noQuote ?_
    · have notBreak : c ≠ '\n' := fun isBreak => oneLine (isBreak ▸ member)
      simpa [notBreak] using allowed noControls c member
    · rintro rfl
      exact plain rfl
  · exact .longBasic
  · rw [Bool.and_eq_true, decide_eq_true_eq] at fewSingle
    exact .longLiteral (allowed fewSingle.1) fewSingle.2
  · exact .basic
  · exact .longBasic

theorem readString?_quotedAs {text : List Char} {form : StringForm} (fits : FormFits text form)
    {rest : List Char} (endsDouble : NoQuote '"' rest) (endsSingle : NoQuote '\'' rest) :
    readString? (quotedAs form text ++ rest) = some (text, rest) := by
  cases fits with
  | basic =>
    have notThree : NoTwoQuotes '"' (escape false 0 0 text ++ '"' :: rest) := by
      intro more isTail
      cases text with
      | nil => exact endsDouble more (List.cons.inj isTail).2
      | cons c text => exact noQuote_escape (fun _ => Nat.not_lt_zero 0) text _ _ isTail
    have split : quotedAs .basic text ++ rest = '"' :: (escape false 0 0 text ++ '"' :: rest) := by
      simp [quotedAs]
    rw [split, readString?.eq_2 _ fun more isTail => notThree more isTail]
    refine readBasic?_escape 0 text rest ?_
    have shorter := length_le_escape false 0 0 text
    rw [List.length_append]
    omega
  | literal printable noQuote notEmpty =>
    have notThree : NoTwoQuotes '\'' (text ++ '\'' :: rest) := by
      intro more isTail
      cases text with
      | nil => exact notEmpty rfl
      | cons c text => exact noQuote (List.mem_cons.mpr (.inl (List.cons.inj isTail).1.symm))
    have split : quotedAs .literal text ++ rest = '\'' :: (text ++ '\'' :: rest) := by
      simp [quotedAs]
    rw [split, readString?.eq_4 _ fun more isTail => notThree more isTail]
    exact readLiteral?_append printable noQuote rest
  | longBasic =>
    have split : quotedAs .longBasic text ++ rest = '"' :: '"' :: '"' ::
        (firstBreak text ++ (escape true quotesInside 0 text ++ '"' :: '"' :: '"' :: rest)) := by
      simp [quotedAs]
    rw [split, readString?.eq_1, dropFirstBreak_firstBreak ?_]
    · refine readLongBasic?_escape 0 text endsDouble ?_
      have shorter := length_le_escape true quotesInside 0 text
      simp only [List.length_append]
      omega
    · exact fun oneLine => noBreak_escape oneLine _
  | longLiteral allowed few =>
    have split : quotedAs .longLiteral text ++ rest = '\'' :: '\'' :: '\'' ::
        (firstBreak text ++ (text ++ '\'' :: '\'' :: '\'' :: rest)) := by
      simp [quotedAs]
    rw [split, readString?.eq_3, dropFirstBreak_firstBreak ?_]
    · exact readLongLiteral?_append allowed few endsSingle
    · intro oneLine
      cases text with
      | nil => exact noBreak_cons (by decide) _
      | cons c text =>
        have notBreak : c ≠ '\n' := fun isBreak => oneLine (isBreak ▸ List.mem_cons_self)
        have isAllowed := allowed c List.mem_cons_self
        refine noBreak_cons ?_ _
        simpa [notBreak] using isAllowed

theorem readString?_writeString (text : String) {rest : List Char} (endsDouble : NoQuote '"' rest)
    (endsSingle : NoQuote '\'' rest) :
    readString? ((writeString text).toList ++ rest) = some (text.toList, rest) := by
  rw [writeString, String.toList_ofList]
  exact readString?_quotedAs (formFits text.toList) endsDouble endsSingle

end SearchQuery.Toml
