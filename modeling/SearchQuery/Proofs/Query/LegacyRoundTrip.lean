import SearchQuery.Proofs.Json.Record
import SearchQuery.Proofs.Query.LegacyPayload

/-!
# Legacy payloads are read back

A legacy filter may be written as a JSON object in many ways: with its members in any order, with
other members among them, with any spelling of the strings, with integers for the strings of their
digits, and without members whose text is the default. All of them decode to the filter, and filters
that differ give different clauses (`decode_written`).
-/

set_option autoImplicit false

namespace SearchQuery

namespace Numeral

/-- An integer as it is written in JSON: a minus sign perhaps, and digits. -/
def ofInt (value : Int) : Numeral :=
  { negative := decide (value < 0), whole := Nat.toDigits 10 value.natAbs }

theorem isWord_ofInt {value : Int} (least : -2 ^ 63 ≤ value) (most : value < 2 ^ 64) :
    (ofInt value).IsWord value := by
  have digits (n : Nat) : Nat.ofDigitChars 10 (Nat.toDigits 10 n) 0 = n :=
    Nat.ofDigitChars_ten_toDigits
  by_cases isNegative : value < 0
  · have isValue : -(value.natAbs : Int) = value := by omega
    have signed := @IsWord.signed (Nat.toDigits 10 value.natAbs)
    rw [digits, isValue] at signed
    rw [ofInt, decide_eq_true isNegative]
    exact signed (by omega) (by omega)
  · have isValue : (value.natAbs : Int) = value := by omega
    have unsigned := @IsWord.unsigned (Nat.toDigits 10 value.natAbs)
    rw [digits, isValue] at unsigned
    rw [ofInt, decide_eq_false isNegative]
    exact unsigned (by omega)

/-- An integer that fits into 64 bits, with or without a sign, has its digits for a text. -/
theorem text?_ofInt {value : Int} (least : -2 ^ 63 ≤ value) (most : value < 2 ^ 64) :
    (ofInt value).text? = some (toString value) :=
  text?_of_isWord (isWord_ofInt least most)

end Numeral

/-! ## Members of an object -/

namespace Json

/-- A field has its value for the last member of its name, or it may miss and has none. -/
theorem WrittenMembers.lastValue {forms : List (FieldForm String)}
    {members known others : List (String × Json String)}
    (written : WrittenMembers some forms known) (nodup : (forms.map FieldForm.name).Nodup)
    (noFields : ∀ member ∈ others, member.1 ∉ forms.map FieldForm.name)
    (mixed : members.Perm (known ++ others)) :
    ∀ form ∈ forms, (form.MayMiss ∧ LastValue form.name members none) ∨
      ∃ value, form.Stands value ∧ LastValue form.name members (some value) := by
  intro form isForm
  obtain ⟨found, isLast⟩ := exists_lastValue form.name members
  have isName {other : FieldForm String} (isOther : other ∈ forms) :
      other.name ∈ forms.map FieldForm.name := List.mem_map_of_mem isOther
  cases found with
  | none =>
    refine .inl ⟨?_, isLast⟩
    obtain ⟨missing⟩ := isLast
    obtain mayMiss | isKnown :=
      mayMiss_or_mem_knownNames written (fun _ => isName) form isForm
    · exact mayMiss
    · obtain ⟨member, isMember, isName⟩ := List.mem_filterMap.mp isKnown
      have isKey : member.1 = form.name := Option.some.inj (Option.filter_eq_some_iff.mp isName).1
      have inMembers := mixed.mem_iff.mpr (List.mem_append_left others isMember)
      exact absurd (isKey ▸ List.mem_map_of_mem inMembers) missing
  | some value =>
    refine .inr ⟨value, ?_, isLast⟩
    obtain isKnown | isOther := List.mem_append.mp (mixed.mem_iff.mp isLast.mem)
    · obtain ⟨name, isKey, stands⟩ := written.memberStands nodup _ isKnown
      exact stands form isForm (Option.some.inj isKey)
    · exact absurd (isName isForm) (noFields _ isOther)

end Json

namespace LegacyInfo

open SearchQuery.Json (FieldForm IsEscaped LastValue TextSpelling WrittenMembers)

/-- The values that stand for a text: the string itself, and an integer whose digits it is. -/
def StandsFor (text : String) (value : Json String) : Prop :=
  value = .string text ∨
    ∃ number : Int, -2 ^ 63 ≤ number ∧ number < 2 ^ 64 ∧ text = toString number ∧
      value = .number (.ofInt number)

/-- The ways to write the fields of a legacy filter. -/
def fieldForms (info : LegacyInfo) : List (FieldForm String) :=
  [⟨"author", StandsFor info.author, info.author = ""⟩,
    ⟨"recipient", StandsFor info.recipient, info.recipient = ""⟩,
    ⟨"start", StandsFor info.start, info.start = "0"⟩,
    ⟨"end", StandsFor info.finish, info.finish = "0"⟩]

theorem memberText_of_stands {members : List (String × Json String)} {key default text : String}
    (written : (text = default ∧ LastValue key members none) ∨
      ∃ value, StandsFor text value ∧ LastValue key members (some value)) :
    memberText members key default = pure text := by
  rw [memberText]
  obtain ⟨rfl, isLast⟩ | ⟨value, stands, isLast⟩ := written
  · rw [isLast.member?_eq]
  · rw [isLast.member?_eq]
    obtain rfl | ⟨number, least, most, rfl, rfl⟩ := stands
    · rfl
    · simp only [scalarText?, Numeral.text?_ofInt least most]

theorem StandsFor.withinLimits {text : String} {value : Json String}
    (stands : StandsFor text value) :
    value.depth = 0 ∧ value.allNumbers (·.text?.isSome) = true := by
  obtain rfl | ⟨number, least, most, rfl, rfl⟩ := stands
  · exact ⟨rfl, rfl⟩
  · exact ⟨rfl, by rw [Json.allNumbers, Numeral.text?_ofInt least most]; rfl⟩

/-- The names that mean something in a payload. -/
def fieldNames : List String :=
  ["author", "recipient", "start", "end"]

theorem names_fieldForms (info : LegacyInfo) :
    info.fieldForms.map FieldForm.name = fieldNames :=
  rfl

section

variable {info : LegacyInfo} {payload : String}
  {members known others : List (String × Json String)}

/-- A payload that is written for a filter keeps within the limits of the reader if the members of
other names do. -/
theorem isPayload_of_written (spelled : TextSpelling IsEscaped (.object members) payload.toList)
    (written : WrittenMembers some info.fieldForms known)
    (limits : ∀ member ∈ others, member.2.depth ≤ 126 ∧
      member.2.allNumbers (·.text?.isSome) = true)
    (mixed : members.Perm (known ++ others)) : IsPayload (.object members) payload := by
  have within : ∀ member ∈ members, member.2.depth ≤ 126 ∧
      member.2.allNumbers (·.text?.isSome) = true := by
    intro member isMember
    obtain isKnown | isOther := List.mem_append.mp (mixed.mem_iff.mp isMember)
    · obtain ⟨form, isForm, _, stands⟩ := written.exists_form member isKnown
      have standsFor : ∃ text, StandsFor text member.2 := by
        simp only [fieldForms, List.mem_cons, List.not_mem_nil, or_false] at isForm
        obtain rfl | rfl | rfl | rfl := isForm <;> exact ⟨_, stands⟩
      obtain ⟨text, standsFor⟩ := standsFor
      obtain ⟨flat, inRange⟩ := standsFor.withinLimits
      exact ⟨by omega, inRange⟩
    · exact limits member isOther
  refine ⟨spelled, .object fun member isMember => ?_, ?_⟩
  · exact Json.depth_le_iff.mp (within member isMember).1
  · exact allNumbers_text?_iff.mp ((Json.allNumbers_object _ _).mpr fun member isMember =>
      (within member isMember).2)

theorem decode_of_written (isPayload : IsPayload (.object members) payload)
    (written : WrittenMembers some info.fieldForms known)
    (noFields : ∀ member ∈ others, member.1 ∉ fieldNames)
    (mixed : members.Perm (known ++ others)) : decode payload = pure info := by
  have nodup : (info.fieldForms.map FieldForm.name).Nodup := by
    rw [names_fieldForms]
    decide
  have lastValue := written.lastValue nodup noFields mixed
  simp only [fieldForms, List.forall_mem_cons] at lastValue
  obtain ⟨author, recipient, start, finish, _⟩ := lastValue
  rw [decode_object isPayload, memberText_of_stands author, memberText_of_stands recipient,
    memberText_of_stands start, memberText_of_stands finish]
  rfl

end

/-! ## Clauses -/

theorem sublist_clauses (info : LegacyInfo) :
    info.clauses.Sublist
      [.wildcard "info_msg_author" ("*" ++ info.author ++ "*"),
        .wildcard "info_msg_recipient" ("*" ++ info.recipient ++ "*"),
        .range "info_msg_date" (some info.start) none,
        .range "info_msg_date" none (some info.finish)] := by
  have name (field part : String) :
      (nameClauses field part).Sublist [.wildcard field ("*" ++ part ++ "*")] := by
    unfold nameClauses
    split
    · exact List.nil_sublist _
    · exact List.Sublist.refl _
  have bound (clause : Clause) (text : String) :
      (if text = unbounded then [] else [clause]).Sublist [clause] := by
    split
    · exact List.nil_sublist _
    · exact List.Sublist.refl _
  exact (((name _ _).append (name _ _)).append (bound _ _)).append (bound _ _)

theorem mem_clauses_iff (info : LegacyInfo) (clause : Clause) :
    clause ∈ info.clauses ↔
      (info.author ≠ "" ∧
        clause = .wildcard "info_msg_author" ("*" ++ info.author ++ "*")) ∨
      (info.recipient ≠ "" ∧
        clause = .wildcard "info_msg_recipient" ("*" ++ info.recipient ++ "*")) ∨
      (info.start ≠ "0" ∧ clause = .range "info_msg_date" (some info.start) none) ∨
      (info.finish ≠ "0" ∧ clause = .range "info_msg_date" none (some info.finish)) := by
  have ofIf (condition : Prop) [Decidable condition] (other : Clause) :
      clause ∈ (if condition then [] else [other]) ↔ ¬ condition ∧ clause = other := by
    split <;> simp_all
  simp only [clauses, nameClauses, List.mem_append, ofIf, or_assoc]
  rfl

theorem eq_of_same_unless {default text other : String}
    (same : ∀ candidate, (text ≠ default ∧ candidate = text) ↔
      (other ≠ default ∧ candidate = other)) : text = other := by
  by_cases isDefault : text = default
  · by_cases otherDefault : other = default
    · exact isDefault.trans otherDefault.symm
    · exact absurd isDefault ((same other).mpr ⟨otherDefault, rfl⟩).1
  · exact ((same text).mp ⟨isDefault, rfl⟩).2

theorem clauses_injective : Function.Injective clauses := by
  intro info other same
  have mem (clause : Clause) : clause ∈ info.clauses ↔ clause ∈ other.clauses := by
    rw [same]
  simp only [mem_clauses_iff] at mem
  have author : info.author = other.author := @eq_of_same_unless "" _ _ fun part => by
    simpa using mem (.wildcard "info_msg_author" ("*" ++ part ++ "*"))
  have recipient : info.recipient = other.recipient := @eq_of_same_unless "" _ _ fun part => by
    simpa using mem (.wildcard "info_msg_recipient" ("*" ++ part ++ "*"))
  have start : info.start = other.start := @eq_of_same_unless "0" _ _ fun bound => by
    simpa using mem (.range "info_msg_date" (some bound) none)
  have finish : info.finish = other.finish := @eq_of_same_unless "0" _ _ fun bound => by
    simpa using mem (.range "info_msg_date" none (some bound))
  obtain ⟨_, _, _, _⟩ := info
  obtain ⟨_, _, _, _⟩ := other
  simp_all

/-- All ways to write a legacy filter as a payload decode to it, and filters that differ have
different clauses: at most four, in the order of the fields, with one bound to a range. -/
theorem decode_written :
    (∀ (info : LegacyInfo) (payload : String) (members known others : List (String × Json String)),
      TextSpelling IsEscaped (.object members) payload.toList →
      WrittenMembers some info.fieldForms known →
      (∀ member ∈ others, member.1 ∉ ["author", "recipient", "start", "end"]) →
      (∀ member ∈ others,
        member.2.depth ≤ 126 ∧ member.2.allNumbers (·.text?.isSome) = true) →
      members.Perm (known ++ others) → decode payload = pure info) ∧
    (∀ info other : LegacyInfo, info.clauses = other.clauses → info = other) ∧
    ∀ info : LegacyInfo,
      info.clauses.Sublist
        [.wildcard "info_msg_author" ("*" ++ info.author ++ "*"),
          .wildcard "info_msg_recipient" ("*" ++ info.recipient ++ "*"),
          .range "info_msg_date" (some info.start) none,
          .range "info_msg_date" none (some info.finish)] ∧
      info.clauses.length ≤ 4 ∧
      ∀ field lower upper, .range field lower upper ∈ info.clauses →
        (lower.isSome = true ↔ upper = none) := by
  refine ⟨?_, fun _ _ same => clauses_injective same, fun info => ?_⟩
  · intro info payload members known others spelled written noFields limits mixed
    have isPayload := isPayload_of_written spelled written limits mixed
    exact decode_of_written isPayload written noFields mixed
  · refine ⟨sublist_clauses info, (sublist_clauses info).length_le, ?_⟩
    intro field lower upper isClause
    rw [mem_clauses_iff] at isClause
    simp only [reduceCtorEq, and_false, false_or, Clause.range.injEq] at isClause
    obtain ⟨_, _, rfl, rfl⟩ | ⟨_, _, rfl, rfl⟩ := isClause <;> simp

theorem decode_written_reordered :
    let payload := "\x7b \"x\":[1e3], \"\\u0065nd\" : 18446744073709551615,
      \"author\":\"\\ud83d\\ude00\\/\"\x7d"
    decode payload = pure { author := "😀/", finish := "18446744073709551615" } := by
  have digits : Numeral.ofInt 18446744073709551615 =
      ⟨false, "18446744073709551615".toList, [], none⟩ := by decide
  refine decode_written.1 { author := "😀/", finish := "18446744073709551615" } _
    [("x", .array [.number ⟨false, ['1'], [], some (false, ['3'])⟩]),
      ("end", .number (.ofInt 18446744073709551615)), ("author", .string "😀/")]
    [("author", .string "😀/"), ("end", .number (.ofInt 18446744073709551615))]
    [("x", .array [.number ⟨false, ['1'], [], some (false, ['3'])⟩])]
    ((Json.value?_eq_some_iff _ _).mp ?_) ?_ ?_ ?_ (List.reverse_perm (_ :: _ :: [_]))
  · exact Json.value?_eq_some_of_chars (by decide +kernel) (by decide +kernel)
  · exact .written rfl (.inl rfl) (.missing rfl (.missing rfl
      (.written rfl (.inr ⟨18446744073709551615, by decide, by decide, by decide, rfl⟩) .nil)))
  · simp
  · rw [List.forall_mem_singleton]
    exact ⟨by decide, by decide +kernel⟩

end LegacyInfo

end SearchQuery
