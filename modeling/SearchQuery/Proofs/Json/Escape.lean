import Mathlib.Tactic.SplitIfs
import SearchQuery.Json.Reader

/-!
# The spellings of strings

What may stand between the quotes of a string is a grammar (`StringBody`), and the reader takes
exactly such a body off the front of a text (`StringBody.readSource?`,
`stringBody_of_readSource?`). A body stands for a text unless it spells half a surrogate pair;
`Escapes` relates the two, and resolving the escapes of a body gives the text that it stands for
(`Escapes.unescape?`, `escapes_of_unescape?`). The spelling with the shortest escapes is one of them
(`escapes_escape`). The written form of a character is one of three kinds: a short escape, an escape
by code unit, or the character itself (`escapeChar_cases`).
-/

set_option autoImplicit false

namespace SearchQuery.Json

open SearchQuery.Text (hexDigit hexValue?)

/-- What may stand between two quotes. -/
inductive StringBody : List Char → Prop where
  | nil : StringBody []
  | plain {c : Char} {rest : List Char} :
      c ≠ '"' → c ≠ '\\' → ¬ c.toNat < 0x20 → StringBody rest → StringBody (c :: rest)
  | short {letter resolved : Char} {rest : List Char} :
      shortEscape? letter = some resolved → StringBody rest → StringBody ('\\' :: letter :: rest)
  | unit {a b c d : Char} {code : Nat} {rest : List Char} :
      codeUnit? a b c d = some code → StringBody rest →
      StringBody ('\\' :: 'u' :: a :: b :: c :: d :: rest)

/-- The spellings of a text between two quotes. Characters of the basic plane may be spelled by
their code unit, the others by those of their surrogate pair. -/
inductive Escapes : List Char → List Char → Prop where
  | nil : Escapes [] []
  | plain {c : Char} {source text : List Char} :
      c ≠ '"' → c ≠ '\\' → ¬ c.toNat < 0x20 → Escapes source text →
      Escapes (c :: source) (c :: text)
  | short {letter resolved : Char} {source text : List Char} :
      shortEscape? letter = some resolved → Escapes source text →
      Escapes ('\\' :: letter :: source) (resolved :: text)
  | unit {a b c d : Char} {code : Nat} {source text : List Char} :
      codeUnit? a b c d = some code → ¬ (0xD800 ≤ code ∧ code ≤ 0xDFFF) → Escapes source text →
      Escapes ('\\' :: 'u' :: a :: b :: c :: d :: source) (Char.ofNat code :: text)
  | pair {a b c d e f g h : Char} {high low : Nat} {source text : List Char} :
      codeUnit? a b c d = some high → 0xD800 ≤ high → high ≤ 0xDBFF →
      codeUnit? e f g h = some low → 0xDC00 ≤ low → low ≤ 0xDFFF → Escapes source text →
      Escapes ('\\' :: 'u' :: a :: b :: c :: d :: '\\' :: 'u' :: e :: f :: g :: h :: source)
        (Char.ofNat (0x10000 + (high - 0xD800) * 0x400 + (low - 0xDC00)) :: text)

theorem Escapes.stringBody {source text : List Char} (escapes : Escapes source text) :
    StringBody source := by
  induction escapes with
  | nil => exact .nil
  | plain notQuote notBackslash printable _ ih => exact .plain notQuote notBackslash printable ih
  | short isShort _ ih => exact .short isShort ih
  | unit isUnit _ _ ih => exact .unit isUnit ih
  | pair isHigh _ _ isLow _ _ _ ih => exact .unit isHigh (.unit isLow ih)

/-!
## Up to the closing quote
-/

theorem ne_unit_of_shortEscape? {letter resolved : Char}
    (isShort : shortEscape? letter = some resolved) : letter ≠ 'u' := by
  rintro rfl
  cases isShort

theorem readSource?_short {letter resolved : Char} (isShort : shortEscape? letter = some resolved)
    (rest : List Char) :
    readSource? ('\\' :: letter :: rest) =
      (readSource? rest).map fun (source, unread) => ('\\' :: letter :: source, unread) := by
  have notUnit := ne_unit_of_shortEscape? isShort
  rw [readSource?.eq_4 letter rest fun _ _ _ _ _ same _ => notUnit same, isShort]
  cases readSource? rest <;> rfl

theorem readSource?_plain {c : Char} (notQuote : c ≠ '"') (notBackslash : c ≠ '\\')
    (printable : ¬ c.toNat < 0x20) (rest : List Char) :
    readSource? (c :: rest) =
      (readSource? rest).map fun (source, unread) => (c :: source, unread) := by
  rw [readSource?.eq_5 c rest notQuote (fun _ _ _ _ _ same _ => notBackslash same)
    (fun _ _ same _ => notBackslash same), if_neg (by simp [notBackslash, printable])]

theorem StringBody.readSource? {body : List Char} (valid : StringBody body) (rest : List Char) :
    readSource? (body ++ '"' :: rest) = some (body, rest) := by
  induction valid with
  | nil => simp [Json.readSource?]
  | plain notQuote notBackslash printable _ ih =>
    rw [List.cons_append, readSource?_plain notQuote notBackslash printable, ih]
    rfl
  | short isShort _ ih =>
    rw [List.cons_append, List.cons_append, readSource?_short isShort, ih]
    rfl
  | unit isUnit _ ih =>
    simp only [List.cons_append, Json.readSource?, isUnit, ih]

theorem stringBody_of_readSource? {text source rest : List Char}
    (read : readSource? text = some (source, rest)) :
    StringBody source ∧ text = source ++ '"' :: rest := by
  fun_induction readSource? text generalizing source rest with
  | case1 => cases read
  | case2 unread =>
    cases read
    exact ⟨.nil, rfl⟩
  | case3 a b c d text code source' unread found isUnit ih =>
    cases read
    obtain ⟨valid, rfl⟩ := ih found
    exact ⟨.unit isUnit valid, rfl⟩
  | case4 => cases read
  | case5 letter text _ resolved source' unread found isShort ih =>
    cases read
    obtain ⟨valid, rfl⟩ := ih found
    exact ⟨.short isShort valid, rfl⟩
  | case6 => cases read
  | case7 => cases read
  | case8 c text notQuote _ _ isPlain ih =>
    obtain ⟨⟨source', unread⟩, found, same⟩ := Option.map_eq_some_iff.mp read
    cases same
    obtain ⟨valid, rfl⟩ := ih found
    obtain ⟨notBackslash, printable⟩ := not_or.mp isPlain
    exact ⟨.plain notQuote notBackslash printable valid, rfl⟩

/-!
## Resolving escapes
-/

theorem unescape?_short {letter resolved : Char} (isShort : shortEscape? letter = some resolved)
    (rest : List Char) :
    unescape? ('\\' :: letter :: rest) = (unescape? rest).map (resolved :: ·) := by
  have notUnit := ne_unit_of_shortEscape? isShort
  rw [unescape?.eq_3 letter rest fun _ _ _ _ _ same _ => notUnit same, isShort]

theorem unescape?_plain {c : Char} (notBackslash : c ≠ '\\') (rest : List Char) :
    unescape? (c :: rest) = (unescape? rest).map (c :: ·) :=
  unescape?.eq_4 c rest (fun _ _ _ _ _ same _ => notBackslash same)
    fun _ _ same _ => notBackslash same

theorem isHighSurrogate_iff (code : Nat) :
    isHighSurrogate code = true ↔ 0xD800 ≤ code ∧ code ≤ 0xDBFF := by
  simp [isHighSurrogate]

theorem isLowSurrogate_iff (code : Nat) :
    isLowSurrogate code = true ↔ 0xDC00 ≤ code ∧ code ≤ 0xDFFF := by
  simp [isLowSurrogate]

theorem Escapes.unescape? {source text : List Char} (escapes : Escapes source text) :
    unescape? source = some text := by
  induction escapes with
  | nil => rfl
  | plain _ notBackslash _ _ ih =>
    rw [unescape?_plain notBackslash, ih]
    rfl
  | short isShort _ ih =>
    rw [unescape?_short isShort, ih]
    rfl
  | @unit _ _ _ _ code _ _ isUnit notSurrogate _ ih =>
    have notHigh : isHighSurrogate code = false :=
      Bool.eq_false_iff.mpr fun high => notSurrogate (by rw [isHighSurrogate_iff] at high; omega)
    have notLow : isLowSurrogate code = false :=
      Bool.eq_false_iff.mpr fun low => notSurrogate (by rw [isLowSurrogate_iff] at low; omega)
    simp only [Json.unescape?, isUnit, notHigh, notLow, Bool.false_eq_true, if_false, ih,
      Option.map_some]
  | @pair _ _ _ _ _ _ _ _ high low _ _ isHigh highLeast highMost isLow lowLeast lowMost _ ih =>
    have high := (isHighSurrogate_iff high).mpr ⟨highLeast, highMost⟩
    have low := (isLowSurrogate_iff low).mpr ⟨lowLeast, lowMost⟩
    simp only [Json.unescape?, isHigh, isLow, high, low, if_true, ih, Option.map_some]
    rfl

theorem StringBody.of_short {letter resolved : Char} {rest : List Char}
    (isShort : shortEscape? letter = some resolved)
    (valid : StringBody ('\\' :: letter :: rest)) : StringBody rest := by
  cases valid with
  | plain _ notBackslash _ _ => exact absurd rfl notBackslash
  | short _ valid => exact valid
  | unit _ _ => cases isShort

theorem StringBody.of_unit {a b c d : Char} {rest : List Char}
    (valid : StringBody ('\\' :: 'u' :: a :: b :: c :: d :: rest)) : StringBody rest := by
  cases valid with
  | plain _ notBackslash _ _ => exact absurd rfl notBackslash
  | short isShort _ => cases isShort
  | unit _ valid => exact valid

theorem escapes_of_unescape? {source text : List Char} (valid : StringBody source)
    (resolves : unescape? source = some text) : Escapes source text := by
  fun_induction unescape? source generalizing text with
  | case1 =>
    cases resolves
    exact .nil
  | case2 => cases resolves
  | case3 => cases resolves
  | case4 a b c d high isHigh highSurrogate e f g h rest low isLow lowSurrogate ih =>
    obtain ⟨others, found, rfl⟩ := Option.map_eq_some_iff.mp resolves
    obtain ⟨highLeast, highMost⟩ := (isHighSurrogate_iff high).mp highSurrogate
    obtain ⟨lowLeast, lowMost⟩ := (isLowSurrogate_iff low).mp lowSurrogate
    exact .pair isHigh highLeast highMost isLow lowLeast lowMost (ih valid.of_unit.of_unit found)
  | case5 => cases resolves
  | case6 => cases resolves
  | case7 => cases resolves
  | case8 a b c d rest code isUnit notHigh notLow ih =>
    obtain ⟨others, found, rfl⟩ := Option.map_eq_some_iff.mp resolves
    rw [isHighSurrogate_iff] at notHigh
    rw [isLowSurrogate_iff] at notLow
    exact .unit isUnit (by omega) (ih valid.of_unit found)
  | case9 => cases resolves
  | case10 letter rest _ resolved isShort ih =>
    obtain ⟨others, found, rfl⟩ := Option.map_eq_some_iff.mp resolves
    exact .short isShort (ih (valid.of_short isShort) found)
  | case11 c rest notUnit notShort ih =>
    obtain ⟨others, found, rfl⟩ := Option.map_eq_some_iff.mp resolves
    cases valid with
    | plain notQuote notBackslash printable valid =>
      exact .plain notQuote notBackslash printable (ih valid found)
    | short _ _ => exact absurd rfl (notShort _ _ rfl)
    | unit _ _ => exact absurd rfl (notUnit _ _ _ _ _ rfl)

/-!
## The shortest spelling
-/

theorem codeUnit?_control : ∀ n < 0x20,
    codeUnit? '0' '0' (hexDigit (n / 16)) (hexDigit (n % 16)) = some n := by
  decide

theorem escapeChar_cases (c : Char) :
    (∃ letter, shortEscape? letter = some c ∧ escapeChar c = ['\\', letter]) ∨
    (c.toNat < 0x20 ∧ escapeChar c =
      ['\\', 'u', '0', '0', hexDigit (c.toNat / 16), hexDigit (c.toNat % 16)]) ∨
    (c ≠ '"' ∧ c ≠ '\\' ∧ ¬ c.toNat < 0x20 ∧ escapeChar c = [c]) := by
  unfold escapeChar
  split_ifs with quote backslash backspace formFeed lineFeed carriageReturn tab control
  · exact .inl ⟨'"', by rw [quote]; rfl, rfl⟩
  · exact .inl ⟨'\\', by rw [backslash]; rfl, rfl⟩
  · exact .inl ⟨'b', by rw [backspace]; rfl, rfl⟩
  · exact .inl ⟨'f', by rw [formFeed]; rfl, rfl⟩
  · exact .inl ⟨'n', by rw [lineFeed]; rfl, rfl⟩
  · exact .inl ⟨'r', by rw [carriageReturn]; rfl, rfl⟩
  · exact .inl ⟨'t', by rw [tab]; rfl, rfl⟩
  · exact .inr (.inl ⟨control, rfl⟩)
  · exact .inr (.inr ⟨quote, backslash, control, rfl⟩)

theorem escapes_escape (text : List Char) : Escapes (escape text) text := by
  induction text with
  | nil => exact .nil
  | cons c text ih =>
    have split : escape (c :: text) = escapeChar c ++ escape text := List.flatMap_cons
    rw [split]
    obtain ⟨letter, isShort, form⟩ | ⟨control, form⟩ |
      ⟨notQuote, notBackslash, printable, form⟩ := escapeChar_cases c
    · rw [form]
      exact .short isShort ih
    · have isUnit := Escapes.unit (codeUnit?_control c.toNat control) (by omega) ih
      rw [Char.ofNat_toNat] at isUnit
      rw [form]
      exact isUnit
    · rw [form]
      exact .plain notQuote notBackslash printable ih

theorem sourceText?_escape (text : String) : sourceText? (escape text.toList) = some text := by
  rw [sourceText?, (escapes_escape text.toList).unescape?, Option.map_some, String.ofList_toList]

end SearchQuery.Json
