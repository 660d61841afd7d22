import SearchQuery.Toml.Reader

/-!
# What a configuration file says

A configuration file is a TOML document with three sections and a mark. Everything in it is
optional, and what is not known is passed over as long as it is valid. A section may also be written
as an array that starts with the value of its only field.
-/

set_option autoImplicit false

namespace SearchQuery

structure IndexSection where
  name : Option String := none
  deriving DecidableEq, Repr

structure SearchSection where
  pageSize : Option UInt64 := none
  deriving DecidableEq, Repr

structure LogSection where
  level : Option String := none
  deriving DecidableEq, Repr

structure FileSettings where
  /-- Whether the file keeps files above it, and that of the user, from being read. -/
  root : Option Bool := none
  index : Option IndexSection := none
  search : Option SearchSection := none
  log : Option LogSection := none
  deriving DecidableEq, Repr

namespace FileSettings

def indexName (file : FileSettings) : Option String :=
  file.index.bind (·.name)

def pageSize (file : FileSettings) : Option UInt64 :=
  file.search.bind (·.pageSize)

def logLevel (file : FileSettings) : Option String :=
  file.log.bind (·.level)

def isRoot (file : FileSettings) : Bool :=
  file.root == some true

end FileSettings

namespace Toml

def inIntegerRange (value : Int) : Bool :=
  decide (-(Nat.pow 2 127 : Int) ≤ value) && decide (value < (Nat.pow 2 128 : Int))

mutual

/-- Whether all numbers of a value are well formed and within their ranges. -/
def Value.isValid : Value → Bool
  | .integer value => inIntegerRange value
  | .float inRange => inRange
  | .malformed => false
  | .string _ | .boolean _ | .datetime => true
  | .array items => itemsValid items
  | .tables earlier ⟨_, entries⟩ => tablesValid earlier && entriesValid entries
  | .table ⟨_, entries⟩ => entriesValid entries

def itemsValid : List Value → Bool
  | [] => true
  | item :: rest => item.isValid && itemsValid rest

def entriesValid : List (String × Value) → Bool
  | [] => true
  | (_, value) :: rest => value.isValid && entriesValid rest

def tablesValid : List (TableOf Value) → Bool
  | [] => true
  | ⟨_, entries⟩ :: rest => entriesValid entries && tablesValid rest

end

def string? : Value → Option String
  | .string text => some text
  | _ => none

def word? : Value → Option UInt64
  | .integer (.ofNat n) => if n < UInt64.size then some (UInt64.ofNat n) else none
  | _ => none

def boolean? : Value → Option Bool
  | .boolean value => some value
  | _ => none

/-- Reads the value of a name in a table, if there is one. Fails when it cannot be read. -/
def entry? {α : Type} (table : Table) (name : String) (read? : Value → Option α) :
    Option (Option α) :=
  match table.get? name with
  | none => some none
  | some value => (read? value).map some

/-- Whether everything in a table is valid that stands under none of the given names. -/
def othersValid (names : List String) (table : Table) : Bool :=
  entriesValid (table.entries.filter fun entry => !names.contains entry.1)

/-- Reads a section that has one field: a table, an array of which only the first item counts, or a
date, which gives the field no value. -/
def section? {α : Type} (name : String) (read? : Value → Option α) : Value → Option (Option α)
  | .table table => if othersValid [name] table then entry? table name read? else none
  | .array [] => some none
  | .array (first :: _) => (read? first).map some
  | .datetime => some none
  | _ => none

end Toml

namespace FileSettings

open Toml

def ofTable? (table : Table) : Option FileSettings := do
  guard (othersValid ["root", "index", "search", "log"] table)
  let root ← entry? table "root" boolean?
  let index ← entry? table "index" (section? "name" string?)
  let search ← entry? table "search" (section? "page_size" word?)
  let log ← entry? table "log" (section? "level" string?)
  some {
    root
    index := index.map (⟨·⟩)
    search := search.map (⟨·⟩)
    log := log.map (⟨·⟩) }

def ofText? (text : String) : Option FileSettings :=
  (Toml.read? text.toList).bind ofTable?

end FileSettings

end SearchQuery
