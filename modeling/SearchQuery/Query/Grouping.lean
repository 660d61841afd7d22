/-!
# Lists by key, in the order of first mention

A grouping is a list of keys with a list of items each. Items are added under a key: to its list if
the key has one, else to a new list at the end. So no key occurs twice, the keys stand in the order
in which they were first mentioned, and the items of a key stand in the order in which they came.
-/

set_option autoImplicit false

namespace SearchQuery.Grouping

variable {Key Item : Type} [DecidableEq Key]

/-- Adds items under a key. The key gets a list even if there is no item. -/
def add (key : Key) (items : List Item) : List (Key × List Item) → List (Key × List Item)
  | [] => [(key, items)]
  | (first, held) :: rest =>
    if first = key then (first, held ++ items) :: rest
    else (first, held) :: add key items rest

def items? (key : Key) : List (Key × List Item) → Option (List Item)
  | [] => none
  | (first, held) :: rest => if first = key then some held else items? key rest

theorem items?_add_self (key : Key) (items : List Item) (groups : List (Key × List Item)) :
    items? key (add key items groups) = some ((items? key groups).getD [] ++ items) := by
  induction groups with
  | nil => simp [add, items?]
  | cons group rest ih =>
    obtain ⟨first, held⟩ := group
    by_cases same : first = key
    · simp [add, items?, same]
    · simp [add, items?, same, ih]

theorem items?_add_other {key other : Key} (different : other ≠ key) (items : List Item)
    (groups : List (Key × List Item)) :
    items? other (add key items groups) = items? other groups := by
  induction groups with
  | nil => simp [add, items?, different.symm]
  | cons group rest ih =>
    obtain ⟨first, held⟩ := group
    by_cases same : first = key
    · subst same
      simp [add, items?, different.symm]
    · simp only [add, if_neg same, items?, ih]

/-- The keys after an addition: the same, or one more at the end. -/
theorem keys_add (key : Key) (items : List Item) (groups : List (Key × List Item)) :
    (add key items groups).map (·.1) =
      if key ∈ groups.map (·.1) then groups.map (·.1) else groups.map (·.1) ++ [key] := by
  induction groups with
  | nil => simp [add]
  | cons group rest ih =>
    obtain ⟨first, held⟩ := group
    by_cases same : first = key
    · simp [add, same]
    · have different : key ≠ first := fun equal => same equal.symm
      simp only [add, same, if_false, List.map_cons, ih, List.mem_cons, different, false_or]
      split <;> simp

end SearchQuery.Grouping
