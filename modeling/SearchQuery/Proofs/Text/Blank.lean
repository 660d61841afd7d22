import Mathlib.Data.List.DropRight
import SearchQuery.Text.Blank

/-!
# Blanks at the ends of a text

Trimming gives the text between the first and the last character that are not blank. A text whose
ends are visible is left as it is, and every trimmed text is one.
-/

set_option autoImplicit false

namespace SearchQuery.Text

/-- A text that neither starts nor ends with a blank. The empty text is one. -/
structure VisibleEnds (text : List Char) : Prop where
  first : ∀ c, text.head? = some c → isBlank c = false
  last : ∀ c, text.getLast? = some c → isBlank c = false

instance (text : List Char) : Decidable (VisibleEnds text) :=
  decidable_of_iff
    ((text.head?.all (!isBlank ·) && text.getLast?.all (!isBlank ·)) = true) <| by
    simp only [Bool.and_eq_true, Option.all_eq_true, Bool.not_eq_true']
    exact ⟨fun ends => ⟨ends.1, ends.2⟩, fun ends => ⟨ends.first, ends.last⟩⟩

theorem trimStart_append {gap : List Char} (blank : ∀ c ∈ gap, isBlank c = true)
    (text : List Char) : trimStart (gap ++ text) = trimStart text :=
  List.dropWhile_append_of_pos blank

theorem trimStart_of_visible {text : List Char}
    (visible : ∀ c, text.head? = some c → isBlank c = false) : trimStart text = text := by
  cases text with
  | nil => rfl
  | cons c rest => simp [trimStart, visible c rfl]

theorem head?_trimStart {text : List Char} {c : Char} (first : (trimStart text).head? = some c) :
    isBlank c = false := by
  have visible := List.head?_dropWhile_not isBlank text
  rw [show (text.dropWhile isBlank).head? = some c from first] at visible
  simpa using visible

theorem exists_gap (text : List Char) :
    ∃ gap, (∀ c ∈ gap, isBlank c = true) ∧ text = gap ++ trimStart text :=
  ⟨text.takeWhile isBlank, fun _ member => List.mem_takeWhile_imp member,
    List.takeWhile_append_dropWhile.symm⟩

theorem trimEnd_eq (text : List Char) : trimEnd text = text.rdropWhile isBlank := rfl

theorem trimEnd_of_visible {text : List Char}
    (visible : ∀ c, text.getLast? = some c → isBlank c = false) : trimEnd text = text := by
  rw [trimEnd_eq, List.rdropWhile_eq_self_iff]
  intro notEmpty
  rw [visible _ (List.getLast?_eq_some_getLast notEmpty)]
  exact Bool.false_ne_true

theorem trim_of_visibleEnds {text : List Char} (ends : VisibleEnds text) : trim text = text := by
  rw [trim, trimStart_of_visible ends.first, trimEnd_of_visible ends.last]

theorem visibleEnds_trim (text : List Char) : VisibleEnds (trim text) where
  first c first := by
    obtain ⟨rest, whole⟩ : trim text <+: trimStart text :=
      List.rdropWhile_prefix isBlank _
    have starts : (trimStart text).head? = some c := by
      rw [← whole, List.head?_append, first]
      rfl
    exact head?_trimStart starts
  last c last := by
    have notEmpty : trim text ≠ [] := by
      intro empty
      rw [empty] at last
      cases last
    have visible := List.rdropWhile_last_not isBlank (trimStart text) notEmpty
    rw [List.getLast?_eq_some_getLast notEmpty] at last
    cases last
    exact Bool.eq_false_iff.mpr visible

theorem mem_of_mem_trim {text : List Char} {c : Char} (member : c ∈ trim text) : c ∈ text :=
  (List.dropWhile_suffix isBlank).subset ((List.rdropWhile_prefix isBlank _).subset member)

theorem trim_eq_nil_iff (text : List Char) : trim text = [] ↔ ∀ c ∈ text, isBlank c = true := by
  rw [trim, trimEnd_eq, List.rdropWhile_eq_nil_iff]
  obtain ⟨gap, blank, whole⟩ := exists_gap text
  constructor
  · intro rest c member
    rw [whole] at member
    rcases List.mem_append.mp member with inGap | inRest
    · exact blank c inGap
    · exact rest c inRest
  · intro all c member
    exact all c ((List.dropWhile_suffix isBlank).subset member)

end SearchQuery.Text
