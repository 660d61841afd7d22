/-!
# TOML documents

A TOML document is a list of statements: headers, which name the section that follows, and
assignments of values to keys. Put together they give a table of tables. The same table may be
reached by headers and by keys with dots, and what may be added to it depends on how it was started;
a document that breaks these rules stands for no table.
-/

set_option autoImplicit false

namespace SearchQuery.Toml

/-- How a table was started. -/
inductive TableKind where
  | header
  /-- By a longer header that leads through it. -/
  | implied
  /-- By a key with dots. -/
  | dotted
  | inline
  deriving DecidableEq, Repr

/-- A table: named values, each name once. -/
structure TableOf (Value : Type) where
  kind : TableKind
  entries : List (String × Value)
  deriving Repr

inductive Value where
  | string (text : String)
  | integer (value : Int)
  /-- A number with a point or an exponent. Only whether it is in the range of doubles is kept. -/
  | float (inRange : Bool)
  /-- A text that is laid out like an integer and spells none. -/
  | malformed
  | boolean (value : Bool)
  /-- A date, a time of day, or both. -/
  | datetime
  | array (items : List Value)
  /-- An array of tables each of which has a header. Headers and keys lead to the last one. -/
  | tables (earlier : List (TableOf Value)) (last : TableOf Value)
  | table (table : TableOf Value)
  deriving Repr

abbrev Table := TableOf Value

/-- A key: the names of the tables that it leads through, and its last name. -/
structure Key where
  through : List String
  name : String
  deriving DecidableEq, Repr

namespace Key

def names (key : Key) : List String :=
  key.through ++ [key.name]

end Key

def setEntry {α : Type} (name : String) (value : α) : List (String × α) → List (String × α)
  | [] => [(name, value)]
  | (first, held) :: rest =>
    if name = first then (name, value) :: rest else (first, held) :: setEntry name value rest

namespace TableOf

variable {α : Type}

def get? (table : TableOf α) (name : String) : Option α :=
  table.entries.lookup name

def set (table : TableOf α) (name : String) (value : α) : TableOf α :=
  { table with entries := setEntry name value table.entries }

end TableOf

namespace TableOf

variable {α : Type}

end TableOf

/-- What leads to a table: a header, or a key with dots. -/
inductive Route where
  | header
  | dotted
  deriving DecidableEq, Repr

namespace Route

def starts : Route → TableKind
  | header => .implied
  | dotted => .dotted

/-- Whether one may go on through a table. Between braces a table is complete, and one with a header
of its own is closed to keys with dots from outside. -/
def passes : Route → TableKind → Bool
  | _, .inline => false
  | .dotted, .header => false
  | _, _ => true

end Route

namespace Table

def empty : Table := ⟨.header, []⟩

/-- Changes the table at the end of a way through tables. Tables that are missing on the way are
started. -/
def changeAt? (route : Route) (change : Table → Option Table) :
    List String → Table → Option Table
  | [], table => change table
  | name :: names, table =>
    match table.get? name with
    | none =>
      (changeAt? route change names ⟨route.starts, []⟩).map fun child =>
        table.set name (.table child)
    | some (.table child) =>
      if route.passes child.kind then
        (changeAt? route change names child).map fun child => table.set name (.table child)
      else none
    | some (.tables earlier last) =>
      (changeAt? route change names last).map fun last => table.set name (.tables earlier last)
    | some _ => none

/-- Assigns a value to a key. The key must not have one, and tables that keys with dots have started
take assignments from such keys only, as these do to such tables only. -/
def assign? (key : Key) (value : Value) : Table → Option Table :=
  changeAt? .dotted (fun parent =>
    if decide (parent.kind = .dotted) = key.through.isEmpty then none
    else match parent.get? key.name with
      | none => some (parent.set key.name value)
      | some _ => none) key.through

/-- Opens a table for a header. A table that another header has led through may get its own header
later; apart from that the name must be new. -/
def openTable? (key : Key) : Table → Option Table :=
  changeAt? .header (fun parent =>
    match parent.get? key.name with
    | none => some (parent.set key.name (.table ⟨.header, []⟩))
    | some (.table ⟨.implied, entries⟩) =>
      some (parent.set key.name (.table ⟨.header, entries⟩))
    | some _ => none) key.through

/-- Opens a further table in an array of tables, or the first one. -/
def openElement? (key : Key) : Table → Option Table :=
  changeAt? .header (fun parent =>
    match parent.get? key.name with
    | none => some (parent.set key.name (.tables [] ⟨.header, []⟩))
    | some (.tables earlier last) =>
      some (parent.set key.name (.tables (earlier ++ [last]) ⟨.header, []⟩))
    | some _ => none) key.through

end Table

inductive Statement where
  | header (key : Key)
  /-- A header of a further table in an array of tables. -/
  | element (key : Key)
  | assign (key : Key) (value : Value)
  deriving Repr

/-- A document up to some statement. -/
structure Document where
  root : Table := Table.empty
  /-- The names that lead to the table which takes the assignments. -/
  current : List String := []
  deriving Repr

namespace Document

def enter? (document : Document) : Statement → Option Document
  | .header key => (document.root.openTable? key).map fun root => ⟨root, key.names⟩
  | .element key => (document.root.openElement? key).map fun root => ⟨root, key.names⟩
  | .assign key value =>
    (document.root.changeAt? .header (Table.assign? key value) document.current).map fun root =>
      { document with root }

def assemble? (statements : List Statement) : Option Table :=
  (statements.foldlM enter? {}).map (·.root)

end Document

end SearchQuery.Toml
