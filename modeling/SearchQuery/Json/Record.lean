import SearchQuery.Json.Basic

/-!
# Records in JSON

A record is written as an object with its fields as members, or as an array of the values of its
fields in the order of declaration. In an object, members that are no fields are passed over, and no
field may occur twice. Fields that are missing, in an array those at its end, keep the values of a
default record, unless the record has no defaults; a longer array is no record.
-/

set_option autoImplicit false

namespace SearchQuery.Json

variable {Text Record Item : Type}

/-- A field of a record: its name, and how its value enters the record. -/
structure Field (Text Record : Type) where
  name : String
  /-- The change to the record that a value makes, if it is a value for the field. -/
  read? : Json Text → Option (Record → Record)

def string? (text? : Text → Option String) : Json Text → Option String
  | string text => text? text
  | _ => none

def word? : Json Text → Option UInt64
  | number numeral => numeral.toUInt64?
  | _ => none

def list? (item? : Json Text → Option Item) : Json Text → Option (List Item)
  | array items => items.mapM item?
  | _ => none

/-- Enters the members of an object into a record, and lists the fields that occurred. Fails at a
member whose key cannot be read, at a value that is none for its field, and at a field that occurs
again. -/
def readMembersInto? (text? : Text → Option String) (fields : List (Field Text Record)) :
    List String → Record → List (Text × Json Text) → Option (List String × Record)
  | seen, record, [] => some (seen, record)
  | seen, record, (key, value) :: rest =>
    match text? key with
    | none => none
    | some name =>
      match fields.find? (·.name == name) with
      | none => readMembersInto? text? fields seen record rest
      | some field =>
        if name ∈ seen then none
        else match field.read? value with
          | none => none
          | some change => readMembersInto? text? fields (name :: seen) (change record) rest

def readItemsInto? : List (Field Text Record) → Record → List (Json Text) → Option Record
  | _, record, [] => some record
  | [], _, _ :: _ => none
  | field :: fields, record, item :: rest =>
    match field.read? item with
    | none => none
    | some change => readItemsInto? fields (change record) rest

/-- Reads a record whose missing fields are those of a default record. -/
def recordOr? (text? : Text → Option String) (fields : List (Field Text Record))
    (default : Record) : Json Text → Option Record
  | object members => (readMembersInto? text? fields [] default members).map (·.2)
  | array items => readItemsInto? fields default items
  | _ => none

/-- Reads a record all of whose fields have to be there. The values of the first record do not
matter. -/
def record? (text? : Text → Option String) (fields : List (Field Text Record))
    (start : Record) : Json Text → Option Record
  | object members =>
    match readMembersInto? text? fields [] start members with
    | none => none
    | some (seen, record) =>
      if fields.all fun field => decide (field.name ∈ seen) then some record else none
  | array items =>
    if items.length < fields.length then none else readItemsInto? fields start items
  | _ => none

end SearchQuery.Json
