import SearchQuery.Text.LowerCase

/-!
# Lower-casing once is enough

What comes out of lower-casing consists of characters that lower-casing leaves alone, each of them
wherever it stands. Only the table of letters decides this: no run of letters is mapped to a letter
of a run, to a capital of ASCII or to the capital I with a dot above (`lowered_avoid_capitals`).
What stands on the two sides of a space is lower-cased apart (`lower_append_space`), since the
search for the end of a word does not go past a space.
-/

set_option autoImplicit false

namespace SearchQuery.Text

/-- A character that lower-casing leaves alone, whatever stands around it. -/
def IsLower (c : Char) : Prop :=
  c ≠ 'Σ' ∧ lowerChar c = [c]

instance (c : Char) : Decidable (IsLower c) :=
  inferInstanceAs (Decidable (_ ∧ _))

/-- All capitals: those of ASCII, the capital I with a dot above, and those of the table. -/
def capitalRuns : List CaseRun :=
  ⟨0x41, 0x5A, 1, 32⟩ :: ⟨0x130, 0x130, 1, -199⟩ :: caseRuns

/-!
## Sets of code points
-/

/-- A set of code points as the bits of one number, so that two large sets can be compared at
once. -/
def bits (codes : List Nat) : Nat :=
  codes.foldr (fun code others => 1 <<< code ||| others) 0

theorem testBit_bits (codes : List Nat) (code : Nat) :
    (bits codes).testBit code = true ↔ code ∈ codes := by
  induction codes with
  | nil => simp [bits]
  | cons first codes ih =>
    have split : bits (first :: codes) = 1 <<< first ||| bits codes := rfl
    rw [split, Nat.testBit_or, Bool.or_eq_true, ih, Nat.one_shiftLeft, Nat.testBit_two_pow,
      decide_eq_true_iff, List.mem_cons, eq_comm]

/-- The code points of all runs of a table. -/
def tableBits (codes : CaseRun → List Nat) (table : List CaseRun) : Nat :=
  table.foldr (fun run others => bits (codes run) ||| others) 0

theorem testBit_tableBits {codes : CaseRun → List Nat} {table : List CaseRun} {run : CaseRun}
    (member : run ∈ table) {code : Nat} (isCode : code ∈ codes run) :
    (tableBits codes table).testBit code = true := by
  induction table with
  | nil => cases member
  | cons first table ih =>
    have split : tableBits codes (first :: table) = bits (codes first) ||| tableBits codes table :=
      rfl
    rw [split, Nat.testBit_or, Bool.or_eq_true, testBit_bits]
    rcases List.mem_cons.mp member with rfl | later
    · exact .inl isCode
    · exact .inr (ih later)

namespace CaseRun

theorem covers_iff (run : CaseRun) (code : Nat) :
    run.covers code = true ↔
      run.first ≤ code ∧ code ≤ run.last ∧ (code - run.first) % run.step = 0 := by
  simp [covers, and_assoc]

/-- The letters of a run, one step after the other. -/
def letters (run : CaseRun) : List Nat :=
  List.range' run.first ((run.last - run.first) / run.step + 1) run.step

/-- Where the lower-case forms of the letters lie. -/
def lowered (run : CaseRun) : List Nat :=
  run.letters.map fun code : Nat => (code + run.shift).toNat

theorem mem_letters {run : CaseRun} {code : Nat} (isLetter : run.covers code = true) :
    code ∈ run.letters := by
  obtain ⟨low, high, onStep⟩ := (covers_iff run code).mp isLetter
  refine List.mem_range'.mpr ⟨(code - run.first) / run.step, ?_, ?_⟩
  · exact Nat.lt_succ_of_le (Nat.div_le_div_right (Nat.sub_le_sub_right high run.first))
  · rw [Nat.mul_div_cancel' (Nat.dvd_of_mod_eq_zero onStep), Nat.add_sub_cancel' low]

theorem mem_lowered {run : CaseRun} {code : Nat} (isLetter : run.covers code = true) :
    (code + run.shift).toNat ∈ run.lowered :=
  List.mem_map.mpr ⟨code, mem_letters isLetter, rfl⟩

end CaseRun

/-!
## What the tables say
-/

private theorem lowered_ascii :
    ∀ code < 0x80, IsLower (Char.ofNat code).toLower ∧
      ((⟨0x41, 0x5A, 1, 32⟩ : CaseRun).covers code = false →
        (Char.ofNat code).toLower = Char.ofNat code) := by
  decide +kernel

/-- What stands for no letter, and the characters that have rules of their own: the capital I with a
dot above, the sigma and the space. -/
private theorem lowered_alone :
    IsLower (Char.ofNat 0) ∧ (IsLower 'i' ∧ IsLower '\u0307') ∧
      (caseRuns.find? (·.covers 'Σ'.toNat) ≠ none ∧ IsLower 'ς' ∧ IsLower 'σ') ∧
      inRanges caseIgnorableRanges ' ' = false ∧ inRanges casedRanges ' ' = false := by
  decide +kernel

private theorem lowered_avoid_capitals :
    tableBits CaseRun.lowered caseRuns &&& tableBits CaseRun.letters capitalRuns = 0 := by
  decide +kernel

theorem lower_not_capital {run : CaseRun} (member : run ∈ caseRuns) {code : Nat}
    (isLetter : run.covers code = true) {other : CaseRun} (capital : other ∈ capitalRuns) :
    other.covers (code + run.shift).toNat = false := by
  refine Bool.eq_false_iff.mpr fun covered => ?_
  have both := congrArg (Nat.testBit · (code + run.shift).toNat) lowered_avoid_capitals
  simp only [Nat.testBit_and, Nat.zero_testBit,
    testBit_tableBits member (CaseRun.mem_lowered isLetter),
    testBit_tableBits capital (CaseRun.mem_letters covered)] at both
  cases both

theorem isLower_of_not_capital {c : Char}
    (small : ∀ run ∈ capitalRuns, run.covers c.toNat = false) : IsLower c := by
  have notListed : caseRuns.find? (·.covers c.toNat) = none := by
    refine List.find?_eq_none.mpr fun run member => ?_
    rw [small run (List.mem_cons_of_mem _ (List.mem_cons_of_mem _ member))]
    exact Bool.false_ne_true
  constructor
  · intro same
    subst same
    obtain ⟨_, _, ⟨isListed, _⟩, _⟩ := lowered_alone
    exact isListed notListed
  · unfold lowerChar
    split
    · rename_i ascii
      have kept := (lowered_ascii c.toNat ascii).2 (small _ List.mem_cons_self)
      rw [Char.ofNat_toNat] at kept
      rw [kept]
    · split
      · rename_i dotted
        subst dotted
        exact absurd (small _ (List.mem_cons_of_mem _ List.mem_cons_self)) (by decide)
      · rw [notListed]

theorem isLower_lower {run : CaseRun} (member : run ∈ caseRuns) {code : Nat}
    (isLetter : run.covers code = true) : IsLower (run.lower code) := by
  by_cases valid : (Int.ofNat code + run.shift).toNat.isValidChar
  · apply isLower_of_not_capital
    intro other capital
    rw [CaseRun.lower, Char.ofNat, dif_pos valid]
    exact lower_not_capital member isLetter capital
  · rw [CaseRun.lower, Char.ofNat, dif_neg valid]
    exact lowered_alone.1

theorem isLower_of_mem_lowerChar {c d : Char} (notSigma : c ≠ 'Σ') (member : d ∈ lowerChar c) :
    IsLower d := by
  have form := member
  unfold lowerChar at form
  split at form
  · rename_i ascii
    have lowered := (lowered_ascii c.toNat ascii).1
    rw [Char.ofNat_toNat] at lowered
    rw [List.mem_singleton.mp form]
    exact lowered
  · split at form
    · simp only [List.mem_cons, List.not_mem_nil, or_false] at form
      obtain ⟨_, ⟨isLowerI, isLowerDot⟩, _⟩ := lowered_alone
      rcases form with rfl | rfl
      · exact isLowerI
      · exact isLowerDot
    · split at form
      · rename_i run found
        rw [List.mem_singleton.mp form]
        exact isLower_lower (List.mem_of_find?_eq_some found) (by simpa using List.find?_some found)
      · rename_i notAscii notDotted _ notListed
        have same := List.mem_singleton.mp form
        subst same
        refine ⟨notSigma, ?_⟩
        rw [lowerChar, if_neg notAscii, if_neg notDotted, notListed]

/-- Everything that lower-casing gives is left alone by lower-casing. -/
theorem isLower_of_mem_lowerAfter {before text : List Char} {c : Char}
    (member : c ∈ lowerAfter before text) : IsLower c := by
  fun_induction lowerAfter before text with
  | case1 => cases member
  | case2 before rest ih =>
    rcases List.mem_cons.mp member with rfl | member
    · obtain ⟨_, _, ⟨_, isLowerFinal, isLowerSigma⟩, _⟩ := lowered_alone
      split
      · exact isLowerFinal
      · exact isLowerSigma
    · exact ih member
  | case3 before first rest notSigma ih =>
    rcases List.mem_append.mp member with here | later
    · exact isLower_of_mem_lowerChar notSigma here
    · exact ih later

theorem lowerAfter_of_isLower (before : List Char) {text : List Char}
    (small : ∀ c ∈ text, IsLower c) : lowerAfter before text = text := by
  fun_induction lowerAfter before text with
  | case1 => rfl
  | case2 before rest _ => exact absurd rfl (small 'Σ' List.mem_cons_self).1
  | case3 before first rest _ ih =>
    rw [(small first List.mem_cons_self).2, ih fun c member => small c (List.mem_cons_of_mem _ member)]
    rfl

/-- Lower-casing leaves a text alone when it leaves every character of it alone. -/
theorem lower_eq_self_iff (text : List Char) : lower text = text ↔ ∀ c ∈ text, IsLower c := by
  constructor
  · intro same c member
    rw [← same] at member
    exact isLower_of_mem_lowerAfter member
  · exact lowerAfter_of_isLower []

/-!
## On the two sides of a space
-/

theorem reachesCased_append_space (text rest : List Char) :
    reachesCased (text ++ ' ' :: rest) = reachesCased text := by
  induction text with
  | nil =>
    obtain ⟨_, _, _, notIgnorable, notCased⟩ := lowered_alone
    simp [reachesCased, notIgnorable, notCased]
  | cons c text ih =>
    unfold reachesCased at ih ⊢
    by_cases ignorable : inRanges caseIgnorableRanges c = true
    · rw [List.cons_append, List.dropWhile_cons_of_pos ignorable,
        List.dropWhile_cons_of_pos ignorable]
      exact ih
    · rw [List.cons_append, List.dropWhile_cons_of_neg ignorable,
        List.dropWhile_cons_of_neg ignorable]

theorem lowerAfter_before_space (near far text : List Char) :
    lowerAfter (near ++ ' ' :: far) text = lowerAfter near text := by
  fun_induction lowerAfter near text with
  | case1 => rfl
  | case2 near rest ih =>
    rw [lowerAfter, endsWord, reachesCased_append_space, ← endsWord, ← ih]
    rfl
  | case3 near first rest notSigma ih =>
    rw [lowerAfter.eq_3 _ _ _ notSigma, ← ih]
    rfl

theorem lowerAfter_append_space (before text rest : List Char) :
    lowerAfter before (text ++ ' ' :: rest) = lowerAfter before text ++ ' ' :: lower rest := by
  fun_induction lowerAfter before text with
  | case1 before =>
    have kept : lowerChar ' ' = [' '] := rfl
    have notSigma : ' ' = 'Σ' → False := by decide
    rw [List.nil_append, lowerAfter.eq_3 _ _ _ notSigma, kept, lower]
    exact congrArg (' ' :: ·) (lowerAfter_before_space [] before rest)
  | case2 before text ih =>
    rw [List.cons_append, lowerAfter, ih, endsWord, reachesCased_append_space, ← endsWord]
    rfl
  | case3 before first text notSigma ih =>
    rw [List.cons_append, lowerAfter.eq_3 _ _ _ notSigma, ih, List.append_assoc]

theorem lower_append_space (text rest : List Char) :
    lower (text ++ ' ' :: rest) = lower text ++ ' ' :: lower rest :=
  lowerAfter_append_space [] text rest

end SearchQuery.Text
