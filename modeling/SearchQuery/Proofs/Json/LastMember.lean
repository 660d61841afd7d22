import SearchQuery.Proofs.Json.Nodes

/-!
# The last member counts

Where an object has a key more than once, the last value given to it counts (`LastValue.member?_eq`),
and its canonical form has the key once, with this value (`member?_canonicalMembers`). Entering a member
into a sorted list replaces the one with the same key and leaves all others as they are
(`member?_insertMember`); that the list is sorted is needed, since the search for the place stops at
the first greater key.
-/

set_option autoImplicit false

namespace SearchQuery.Json

theorem member?_cons (key first : String) (value : Json String)
    (rest : List (String × Json String)) :
    member? key ((first, value) :: rest) =
      (member? key rest).or (if first = key then some value else none) := by
  rw [member?, List.reverse_cons, List.find?_append, Option.map_or, ← member?]
  congr 1
  by_cases same : first = key
  · simp [same]
  · simp [same]

theorem member?_eq_none {key : String} {members : List (String × Json String)}
    (missing : key ∉ keys members) : member? key members = none := by
  induction members with
  | nil => rfl
  | cons member rest ih =>
    obtain ⟨first, value⟩ := member
    obtain ⟨different, notLater⟩ := not_or.mp (mt List.mem_cons.mpr missing)
    rw [member?_cons, ih notLater, if_neg (Ne.symm different)]
    rfl

/-- The last value that an object gives to a key, if it gives any. -/
inductive LastValue (key : String) : List (String × Json String) → Option (Json String) → Prop where
  | absent {members : List (String × Json String)} :
      key ∉ keys members → LastValue key members none
  | last {before after : List (String × Json String)} {value : Json String} :
      key ∉ keys after → LastValue key (before ++ (key, value) :: after) (some value)

theorem LastValue.member?_eq {key : String} {members : List (String × Json String)}
    {found : Option (Json String)} (isLast : LastValue key members found) :
    member? key members = found := by
  cases isLast with
  | absent missing => exact member?_eq_none missing
  | @last before after value missing =>
    induction before with
    | nil =>
      rw [List.nil_append, member?_cons, member?_eq_none missing, if_pos rfl]
      rfl
    | cons member before ih =>
      rw [List.cons_append, member?_cons, ih]
      rfl

theorem exists_lastValue (key : String) (members : List (String × Json String)) :
    ∃ found, LastValue key members found := by
  induction members with
  | nil => exact ⟨none, .absent List.not_mem_nil⟩
  | cons member rest ih =>
    obtain ⟨first, value⟩ := member
    obtain ⟨_, missing | @⟨before, after, found, missing⟩⟩ := ih
    · by_cases isKey : key = first
      · subst isKey
        exact ⟨some value, @LastValue.last key [] rest value missing⟩
      · exact ⟨none, .absent (not_or.mpr ⟨isKey, missing⟩ ∘ List.mem_cons.mp)⟩
    · exact ⟨some found, @LastValue.last key ((first, value) :: before) after found missing⟩

theorem LastValue.mem {key : String} {members : List (String × Json String)}
    {value : Json String} (isLast : LastValue key members (some value)) :
    (key, value) ∈ members := by
  cases isLast with
  | last _ => exact List.mem_append_right _ List.mem_cons_self

theorem exists_member?_of_mem_keys {key : String} {members : List (String × Json String)}
    (isKey : key ∈ keys members) :
    ∃ value, member? key members = some value ∧ (key, value) ∈ members := by
  obtain ⟨_, isLast⟩ := exists_lastValue key members
  cases isLast with
  | absent isNoKey => exact absurd isKey isNoKey
  | last isLast => exact ⟨_, (LastValue.last isLast).member?_eq, (LastValue.last isLast).mem⟩

theorem member?_insertMember (key entering : String) (value : Json String)
    {entered : List (String × Json String)} (sorted : Sorted entered) :
    member? key (insertMember entering value entered) =
      if entering = key then some value else member? key entered := by
  induction entered with
  | nil => exact member?_cons key entering value []
  | cons member rest ih =>
    obtain ⟨first, held⟩ := member
    have nodup := List.nodup_cons.mp sorted.nodup
    rw [insertMember]
    split
    · rename_i same
      subst same
      rw [member?_cons, member?_cons]
      split
      · rename_i isKey
        rw [member?_eq_none (isKey ▸ nodup.1)]
        rfl
      · rfl
    · rename_i different
      split
      · rename_i less
        have isLeast : entering ∉ keys ((first, held) :: rest) := by
          intro member
          rcases List.mem_cons.mp member with same | later
          · exact different same
          · exact lt_asymm less ((List.pairwise_cons.mp sorted).1 entering later)
        rw [member?_cons]
        split
        · rename_i isKey
          rw [member?_eq_none (isKey ▸ isLeast)]
          rfl
        · exact Option.or_none
      · rw [member?_cons, ih (List.pairwise_cons.mp sorted).2, member?_cons]
        split
        · rfl
        · rfl

theorem member?_canonicalMembers_entered (key : String) (members : List (String × Json String))
    {entered : List (String × Json String)} (sorted : Sorted entered) :
    member? key (canonicalMembers entered members) =
      ((member? key members).map canonical).or (member? key entered) := by
  induction members generalizing entered with
  | nil => rfl
  | cons member rest ih =>
    obtain ⟨first, value⟩ := member
    rw [canonicalMembers, ih (sorted_insertMember first _ sorted),
      member?_insertMember key first _ sorted, member?_cons, Option.map_or, Option.or_assoc]
    split
    · rfl
    · rfl

/-- In its canonical form an object has, for every key, the last value given to it. -/
theorem member?_canonicalMembers (key : String) (members : List (String × Json String)) :
    member? key (canonicalMembers [] members) = (member? key members).map canonical := by
  have nothingEntered : Sorted [] := List.Pairwise.nil
  rw [member?_canonicalMembers_entered key members nothingEntered]
  exact Option.or_none

end SearchQuery.Json
