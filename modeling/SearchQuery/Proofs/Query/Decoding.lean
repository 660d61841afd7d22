import SearchQuery.Proofs.Query.DistinctKeys
import SearchQuery.Proofs.Query.SearchedFields

/-!
# Clauses are read back

A clause can be told from what is written for it. `Clause.ofJson?` looks at the key of the only
member of an object for the kind of the clause, and takes what stands under it apart. It accepts
just what is written for plain clauses, those in which no group borrows the key of another
(`ofJson?_eq_some_iff`). Since written values are read back from their text, so are clauses
(`ofText?_eq_some_iff`).
-/

set_option autoImplicit false

namespace SearchQuery

namespace Occur

/-- The group that a key stands for, which borrows no key. -/
def ofKey (key : String) : Occur :=
  if key = "must" then must
  else if key = "should" then should
  else if key = "must_not" then mustNot
  else if key = "filter" then filter
  else other key

theorem key_ofKey (key : String) : (ofKey key).key = key := by
  unfold ofKey
  split_ifs <;> simp_all [Occur.key]

theorem plain_ofKey (key : String) : (ofKey key).Plain := by
  unfold ofKey
  split_ifs <;> simp_all [Plain]

theorem Plain.ofKey_key {occur : Occur} (plain : occur.Plain) : ofKey occur.key = occur :=
  eq_of_key_eq (plain_ofKey _) plain (key_ofKey _)

end Occur

namespace Clause

/-- No group anywhere in a clause borrows the key of a group that has a key of its own. -/
def Plain (clause : Clause) : Prop :=
  ∀ groups, clause.Contains (bool groups) → ∀ group ∈ groups, group.1.Plain

theorem plain_of_leaf {clause : Clause} (isLeaf : clause.toBool? = none) : clause.Plain := by
  intro groups contains
  cases contains with
  | self => cases isLeaf
  | inside _ _ _ => cases isLeaf

theorem plain_bool_iff (groups : List (Occur × List Clause)) :
    (bool groups).Plain ↔
      ∀ group ∈ groups, group.1.Plain ∧ ∀ clause ∈ group.2, clause.Plain := by
  constructor
  · intro plain group isGroup
    refine ⟨plain groups (.self _) group isGroup, ?_⟩
    intro clause isClause inner contains
    exact plain inner (.inside isGroup isClause contains)
  · intro plain inner contains
    cases contains with
    | self => exact fun group isGroup => (plain group isGroup).1
    | inside isGroup isClause contains => exact (plain _ isGroup).2 _ isClause inner contains

theorem plain_bool_cons_iff (occur : Occur) (clauses : List Clause)
    (rest : List (Occur × List Clause)) :
    (bool ((occur, clauses) :: rest)).Plain ↔
      occur.Plain ∧ (∀ clause ∈ clauses, clause.Plain) ∧ (bool rest).Plain := by
  rw [plain_bool_iff, plain_bool_iff, List.forall_mem_cons, and_assoc]

/-!
## The decoder
-/

/-- A clause about a text for a field. -/
def ofField? (build : String → String → Clause) : Json String → Option Clause
  | .object [(field, .string text)] => some (build field text)
  | _ => none

def ofQueryString? : Json String → Option Clause
  | .object [("fields", .array fields), ("query", .string query)] =>
    (fields.mapM (Json.string? some)).map (queryString · query)
  | _ => none

def ofRange? : Json String → Option Clause
  | .object [(field, .object [])] => some (range field none none)
  | .object [(field, .object [("gte", .string lower)])] => some (range field (some lower) none)
  | .object [(field, .object [("lte", .string upper)])] => some (range field none (some upper))
  | .object [(field, .object [("gte", .string lower), ("lte", .string upper)])] =>
    some (range field (some lower) (some upper))
  | _ => none

/-- A clause that is no node, from the key for its kind and what stands under it. -/
def ofLeaf? : String → Json String → Option Clause
  | "term" => ofField? term
  | "match_phrase" => ofField? (matching .phrase)
  | "match_phrase_prefix" => ofField? (matching .fuzzy)
  | "wildcard" => ofField? wildcard
  | "regexp" => ofField? regexp
  | "query_string" => ofQueryString?
  | "range" => ofRange?
  | _ => fun _ => none

mutual

def ofJson? : Json String → Option Clause
  | .object [("bool", .object members)] => (ofMembers? members).map bool
  | .object [(kind, body)] => ofLeaf? kind body
  | _ => none

def ofMembers? : List (String × Json String) → Option (List (Occur × List Clause))
  | [] => some []
  | (key, .array items) :: rest =>
    (ofItems? items).bind fun clauses =>
      (ofMembers? rest).map fun groups => (Occur.ofKey key, clauses) :: groups
  | _ :: _ => none

def ofItems? : List (Json String) → Option (List Clause)
  | [] => some []
  | item :: rest =>
    (ofJson? item).bind fun clause =>
      (ofItems? rest).map fun clauses => clause :: clauses

end

/-- Reads a clause from a JSON text. -/
def ofText? (text : String) : Option Clause :=
  (Json.value? text.toList).bind ofJson?

/-!
## Leaves
-/

/-- What is read item by item is what is written item by item. -/
theorem mapM_eq_some_iff {Item Result : Type} {read? : Item → Option Result}
    {write : Result → Item}
    (inverse : ∀ item result, read? item = some result ↔ write result = item)
    (items : List Item) (results : List Result) :
    items.mapM read? = some results ↔ results.map write = items := by
  induction items generalizing results with
  | nil => cases results <;> simp
  | cons item rest ih =>
    simp only [List.mapM_cons, Option.bind_eq_bind, Option.bind_eq_some_iff, Option.pure_def,
      Option.some.injEq, inverse, ih]
    constructor
    · rintro ⟨first, rfl, others, rfl, rfl⟩
      rfl
    · intro written
      cases results with
      | nil => cases written
      | cons first others =>
        obtain ⟨rfl, rfl⟩ := List.cons.inj written
        exact ⟨first, rfl, others, rfl, rfl⟩

theorem string?_eq_some_iff (value : Json String) (text : String) :
    Json.string? some value = some text ↔ .string text = value := by
  cases value <;> simp [Json.string?, eq_comm]

theorem ofField?_eq_some_iff (build : String → String → Clause) (value : Json String)
    (clause : Clause) :
    ofField? build value = some clause ↔
      ∃ field text, build field text = clause ∧ entry field (.string text) = value := by
  constructor
  · intro found
    unfold ofField? at found
    split at found <;> cases found
    exact ⟨_, _, rfl, rfl⟩
  · rintro ⟨field, text, rfl, rfl⟩
    rfl

theorem ofQueryString?_eq_some_iff (value : Json String) (clause : Clause) :
    ofQueryString? value = some clause ↔
      ∃ fields query, queryString fields query = clause ∧
        .object [("fields", .array (fields.map .string)), ("query", .string query)] = value := by
  constructor
  · intro found
    unfold ofQueryString? at found
    split at found
    · obtain ⟨fields, areTexts, rfl⟩ := Option.map_eq_some_iff.mp found
      rw [← (mapM_eq_some_iff string?_eq_some_iff _ _).mp areTexts]
      exact ⟨fields, _, rfl, rfl⟩
    · cases found
  · rintro ⟨fields, query, rfl, rfl⟩
    simp only [ofQueryString?, (mapM_eq_some_iff string?_eq_some_iff _ fields).mpr rfl,
      Option.map_some]

theorem ofRange?_eq_some_iff (value : Json String) (clause : Clause) :
    ofRange? value = some clause ↔
      ∃ field atLeast atMost, range field atLeast atMost = clause ∧
        entry field (.object (boundMember "gte" atLeast ++ boundMember "lte" atMost)) = value := by
  constructor
  · intro found
    unfold ofRange? at found
    split at found <;> cases found
    · exact ⟨_, none, none, rfl, rfl⟩
    · exact ⟨_, some _, none, rfl, rfl⟩
    · exact ⟨_, none, some _, rfl, rfl⟩
    · exact ⟨_, some _, some _, rfl, rfl⟩
  · rintro ⟨field, atLeast, atMost, rfl, rfl⟩
    cases atLeast <;> cases atMost <;> rfl

/-- A leaf is told from the key for its kind, since no two kinds have the same key. -/
theorem ofLeaf?_eq_some_iff (kind : String) (body : Json String) (clause : Clause) :
    ofLeaf? kind body = some clause ↔
      clause.toBool? = none ∧ clause.toJson = entry kind body := by
  constructor
  · intro found
    unfold ofLeaf? at found
    split at found
    case h_1 | h_2 | h_3 | h_4 | h_5 =>
      obtain ⟨field, text, rfl, rfl⟩ := (ofField?_eq_some_iff _ _ _).mp found
      exact ⟨rfl, rfl⟩
    case h_6 =>
      obtain ⟨fields, query, rfl, rfl⟩ := (ofQueryString?_eq_some_iff _ _).mp found
      exact ⟨rfl, rfl⟩
    case h_7 =>
      obtain ⟨field, atLeast, atMost, rfl, rfl⟩ := (ofRange?_eq_some_iff _ _).mp found
      exact ⟨rfl, rfl⟩
    case h_8 => cases found
  · rintro ⟨isLeaf, written⟩
    cases clause with
    | bool groups => cases isLeaf
    | term field value =>
      cases written
      rfl
    | matching mode field text =>
      cases written
      cases mode <;> rfl
    | wildcard field pattern =>
      cases written
      rfl
    | regexp field pattern =>
      cases written
      rfl
    | queryString fields query =>
      cases written
      exact (ofQueryString?_eq_some_iff _ _).mpr ⟨fields, query, rfl, rfl⟩
    | range field atLeast atMost =>
      cases written
      exact (ofRange?_eq_some_iff _ _).mpr ⟨field, atLeast, atMost, rfl, rfl⟩

/-!
## Clauses of any depth
-/

theorem exists_entry_toJson (clause : Clause) : ∃ kind body, clause.toJson = entry kind body := by
  cases clause <;> exact ⟨_, _, rfl⟩

theorem toJson_eq_bool_iff (clause : Clause) (body : Json String) :
    clause.toJson = entry "bool" body ↔
      ∃ groups, bool groups = clause ∧ .object (groupMembers groups) = body := by
  constructor
  · intro written
    cases clause with
    | bool groups =>
      cases written
      exact ⟨groups, rfl, rfl⟩
    | matching mode field text => cases mode <;> simp [toJson, entry, MatchMode.key] at written
    | _ => simp [toJson, entry] at written
  · rintro ⟨groups, rfl, rfl⟩
    rfl

mutual

/-- Just the plain clauses are read, each from what is written for it. -/
theorem ofJson?_eq_some_iff (value : Json String) (clause : Clause) :
    ofJson? value = some clause ↔ clause.Plain ∧ clause.toJson = value := by
  unfold ofJson?
  split
  · rename_i members
    simp only [Option.map_eq_some_iff, ofMembers?_eq_some_iff members]
    constructor
    · rintro ⟨groups, ⟨plain, rfl⟩, rfl⟩
      exact ⟨plain, rfl⟩
    · rintro ⟨plain, written⟩
      obtain ⟨groups, rfl, isObject⟩ := (toJson_eq_bool_iff _ _).mp written
      cases isObject
      exact ⟨groups, ⟨plain, rfl⟩, rfl⟩
  · rename_i kind body notNode
    rw [ofLeaf?_eq_some_iff]
    refine and_congr_left fun written => ⟨plain_of_leaf, fun plain => ?_⟩
    cases clause with
    | bool groups =>
      cases written
      exact (notNode _ rfl rfl).elim
    | _ => rfl
  · rename_i notNode notEntry
    simp only [reduceCtorEq, false_iff]
    rintro ⟨_, rfl⟩
    obtain ⟨kind, body, written⟩ := exists_entry_toJson clause
    exact notEntry kind body written

theorem ofMembers?_eq_some_iff (members : List (String × Json String))
    (groups : List (Occur × List Clause)) :
    ofMembers? members = some groups ↔ (bool groups).Plain ∧ groupMembers groups = members := by
  unfold ofMembers?
  split
  · cases groups <;> simp [groupMembers, plain_bool_iff]
  · rename_i key items rest
    simp only [Option.bind_eq_some_iff, Option.map_eq_some_iff, ofItems?_eq_some_iff items,
      ofMembers?_eq_some_iff rest]
    constructor
    · rintro ⟨clauses, ⟨plain, rfl⟩, others, ⟨plainOthers, rfl⟩, rfl⟩
      refine ⟨(plain_bool_cons_iff _ _ _).mpr ⟨Occur.plain_ofKey key, plain, plainOthers⟩, ?_⟩
      rw [groupMembers, Occur.key_ofKey]
    · rintro ⟨plain, written⟩
      cases groups with
      | nil => cases written
      | cons group others =>
        obtain ⟨plainOccur, plainClauses, plainOthers⟩ := (plain_bool_cons_iff _ _ _).mp plain
        cases written
        exact ⟨group.2, ⟨plainClauses, rfl⟩, others, ⟨plainOthers, rfl⟩,
          by rw [plainOccur.ofKey_key]⟩
  · rename_i notGroup
    simp only [reduceCtorEq, false_iff]
    rintro ⟨_, written⟩
    cases groups with
    | nil => cases written
    | cons group others =>
      cases written
      exact notGroup _ _ rfl

theorem ofItems?_eq_some_iff (items : List (Json String)) (clauses : List Clause) :
    ofItems? items = some clauses ↔
      (∀ clause ∈ clauses, clause.Plain) ∧ clauseItems clauses = items := by
  unfold ofItems?
  split
  · cases clauses <;> simp [clauseItems]
  · rename_i item rest
    simp only [Option.bind_eq_some_iff, Option.map_eq_some_iff, ofJson?_eq_some_iff item,
      ofItems?_eq_some_iff rest]
    constructor
    · rintro ⟨clause, ⟨plain, rfl⟩, others, ⟨plainOthers, rfl⟩, rfl⟩
      exact ⟨List.forall_mem_cons.mpr ⟨plain, plainOthers⟩, rfl⟩
    · rintro ⟨plain, written⟩
      cases clauses with
      | nil => cases written
      | cons clause others =>
        obtain ⟨plainFirst, plainOthers⟩ := List.forall_mem_cons.mp plain
        cases written
        exact ⟨clause, ⟨plainFirst, rfl⟩, others, ⟨plainOthers, rfl⟩, rfl⟩

end

/-!
## Texts
-/

theorem ofText?_eq_some_iff (text : String) (clause : Clause) :
    ofText? text = some clause ↔
      clause.Plain ∧ Json.value? text.toList = some clause.toJson := by
  simp only [ofText?, Option.bind_eq_some_iff, ofJson?_eq_some_iff]
  constructor
  · rintro ⟨value, isValue, plain, rfl⟩
    exact ⟨plain, isValue⟩
  · rintro ⟨plain, isValue⟩
    exact ⟨_, isValue, plain, rfl⟩

theorem Plain.ofText?_chars {clause : Clause} (plain : clause.Plain) (layout : Json.Layout) :
    ofText? (String.ofList (Json.chars layout clause.toJson)) = some clause := by
  refine (ofText?_eq_some_iff _ _).mpr ⟨plain, ?_⟩
  rw [String.toList_ofList]
  exact Json.value?_chars layout clause.isWellSpelled_toJson

/-- A clause of any depth is read back from its text, on one line or over several, if none of its
groups borrows the key of another. It is read from no text that says something else, and no other
such clause has its text. -/
theorem plain_clause_told_from_text (clause : Clause) (plain : clause.Plain) :
    ofText? clause.toJson.compact = some clause ∧
    ofText? clause.toJson.pretty = some clause ∧
    (∀ text, ofText? text = some clause ↔ Json.value? text.toList = some clause.toJson) ∧
    (∀ other : Clause, other.Plain → other.toJson.compact = clause.toJson.compact →
      other = clause) := by
  have decoded := plain.ofText?_chars .compact
  refine ⟨decoded, plain.ofText?_chars (.indented 0), fun text => ?_, ?_⟩
  · rw [ofText?_eq_some_iff, and_iff_right plain]
  · intro other plainOther sameText
    have decodedOther : ofText? other.toJson.compact = some other :=
      plainOther.ofText?_chars .compact
    rw [sameText] at decodedOther
    exact Option.some.inj (decodedOther.symm.trans decoded)

/-- A node in a node, with an empty group, a group of its own key, a range without bounds, and
quotes and braces in names and texts. -/
theorem plain_clause_told_from_text_nested :
    let clause : Clause :=
      .bool [(.should, []), (.other "boost", [.range "a\"b" none none,
        .bool [(.mustNot, [.queryString [] "\\\x7d", .matching .fuzzy "must" "x"]), (.filter, [])]])]
    clause.Plain ∧
    ofText? clause.toJson.compact = some clause ∧
    ofText? clause.toJson.pretty = some clause ∧
    (∀ text, ofText? text = some clause ↔ Json.value? text.toList = some clause.toJson) ∧
    (∀ other : Clause, other.Plain → other.toJson.compact = clause.toJson.compact →
      other = clause) := by
  intro clause
  have plain : clause.Plain := ((ofJson?_eq_some_iff clause.toJson clause).mp rfl).1
  exact ⟨plain, plain_clause_told_from_text clause plain⟩

/-- A group that borrows the key of another cannot be told from it. -/
example (clauses : List Clause) :
    (ofGroup (.other "must") clauses).toJson = (ofGroup .must clauses).toJson :=
  rfl

end Clause

end SearchQuery
