import Mathlib.Data.List.Basic
import SearchQuery.Proofs.Json.Numeral
import SearchQuery.Toml.Number

/-!
# Natural numbers are read back

The digits of a natural number are an integer in TOML, and the number is its value
(`integer?_toDigits`), however large it is.
-/

set_option autoImplicit false

namespace SearchQuery.Toml

theorem isDigit_of_mem {n : Nat} {c : Char} (member : c ∈ Nat.toDigits 10 n) : c.isDigit = true :=
  Nat.isDigit_of_mem_toDigits (by omega) (by omega) member

theorem digits?_eq_self {isDigit : Char → Bool} (noUnderscore : isDigit '_' = false)
    {digits : List Char} (notEmpty : digits ≠ []) (areDigits : ∀ c ∈ digits, isDigit c = true) :
    digits? isDigit digits = some digits := by
  induction digits with
  | nil => exact absurd rfl notEmpty
  | cons c rest ih =>
    obtain ⟨first, later⟩ := List.forall_mem_cons.mp areDigits
    cases rest with
    | nil => rw [digits?, if_pos first]
    | cons next rest =>
      have notUnderscore : next ≠ '_' := by
        rintro rfl
        exact absurd (later '_' List.mem_cons_self) (by simp [noUnderscore])
      rw [digits?.eq_4 isDigit c _ (by simp) (by simp [notUnderscore]), if_pos first,
        ih (by simp) later]
      rfl

theorem splitSign_of_isDigit {text : List Char} (areDigits : ∀ c ∈ text, c.isDigit = true) :
    splitSign text = (false, text) := by
  refine splitSign.eq_3 text (fun rest isText => ?_) fun rest isText => ?_
  · exact absurd (areDigits '+' (isText ▸ List.mem_cons_self)) (by decide)
  · exact absurd (areDigits '-' (isText ▸ List.mem_cons_self)) (by decide)

theorem decimalDigits?_toDigits (n : Nat) :
    decimalDigits? (Nat.toDigits 10 n) = some (Nat.toDigits 10 n) := by
  have digits : digits? Char.isDigit (Nat.toDigits 10 n) = some (Nat.toDigits 10 n) :=
    digits?_eq_self rfl Nat.toDigits_ne_nil fun c => isDigit_of_mem
  rw [decimalDigits?, splitSign_of_isDigit fun c => isDigit_of_mem, digits]
  split
  · rename_i next rest isLong
    have digitsEq := Option.some.inj isLong
    have zero : (Nat.toDigits 10 n).head? = some '0' := by rw [digitsEq]; rfl
    have short := (Numeral.wellSpelled_ofNat n).noLeadingZero zero
    exact absurd (digitsEq.symm.trans short) (by simp)
  · rfl

theorem hexValue?_of_isDigit {c : Char} (isDigit : c.isDigit = true) :
    Text.hexValue? c = some (c.toNat - '0'.toNat) := by
  simp only [Char.isDigit, Bool.and_eq_true, decide_eq_true_eq] at isDigit
  exact if_pos isDigit

theorem valueOf_eq {digits : List Char} (areDigits : ∀ c ∈ digits, c.isDigit = true)
    (base : Nat) : valueOf base digits = Nat.ofDigitChars base digits 0 := by
  refine List.foldl_ext _ _ 0 fun value c member => ?_
  rw [hexValue?_of_isDigit (areDigits c member), Option.getD_some, Nat.mul_comm]

theorem prefixed?_of_isDigit {text : List Char} (areDigits : ∀ c ∈ text, c.isDigit = true) :
    prefixed? text = none := by
  refine prefixed?.eq_4 text (fun rest isText => ?_) (fun rest isText => ?_) fun rest isText => ?_
  · exact absurd (areDigits 'x' (by simp [isText])) (by decide)
  · exact absurd (areDigits 'o' (by simp [isText])) (by decide)
  · exact absurd (areDigits 'b' (by simp [isText])) (by decide)

theorem integer?_toDigits (n : Nat) : integer? (Nat.toDigits 10 n) = some (n : Int) := by
  rw [integer?, prefixed?_of_isDigit fun c => isDigit_of_mem, decimalDigits?_toDigits,
    splitSign_of_isDigit fun c => isDigit_of_mem]
  simp only [Option.map_some, Bool.false_eq_true, if_false]
  rw [valueOf_eq fun c => isDigit_of_mem, Nat.ofDigitChars_ten_toDigits]

end SearchQuery.Toml
