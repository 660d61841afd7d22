import SearchQuery.Json.Numeral

/-!
# JSON trees

A JSON tree over a type of texts. Over `String` it is a JSON value. Over the characters between two
quotes as they are written it is a JSON text taken apart, in which escapes are not yet resolved.
Objects are lists of members: they keep the order, and they keep a key that occurs twice.
-/

set_option autoImplicit false

namespace SearchQuery

/-- A JSON tree whose keys and strings are of type `Text`. -/
inductive Json (Text : Type) where
  | null
  | bool (value : Bool)
  | number (value : Numeral)
  | string (value : Text)
  | array (items : List (Json Text))
  | object (members : List (Text × Json Text))
  deriving Repr

namespace Json

variable {Text Other : Type}

def kind : Json Text → String
  | null => "null"
  | bool _ => "bool"
  | number _ => "number"
  | string _ => "string"
  | array _ => "array"
  | object _ => "object"

mutual

/-- Reads every text of a tree; fails when one cannot be read. -/
def mapTexts? (read? : Text → Option Other) : Json Text → Option (Json Other)
  | null => some null
  | bool value => some (bool value)
  | number value => some (number value)
  | string value => (read? value).map string
  | array items => (mapItemTexts? read? items).map array
  | object members => (mapMemberTexts? read? members).map object

def mapItemTexts? (read? : Text → Option Other) : List (Json Text) → Option (List (Json Other))
  | [] => some []
  | item :: rest =>
    match mapTexts? read? item, mapItemTexts? read? rest with
    | some item, some rest => some (item :: rest)
    | _, _ => none

def mapMemberTexts? (read? : Text → Option Other) :
    List (Text × Json Text) → Option (List (Other × Json Other))
  | [] => some []
  | (key, value) :: rest =>
    match read? key, mapTexts? read? value, mapMemberTexts? read? rest with
    | some key, some value, some rest => some ((key, value) :: rest)
    | _, _, _ => none

end

mutual

/-- How many arrays and objects are nested in each other at most. -/
def depth : Json Text → Nat
  | null | bool _ | number _ | string _ => 0
  | array items => itemsDepth items + 1
  | object members => membersDepth members + 1

def itemsDepth : List (Json Text) → Nat
  | [] => 0
  | item :: rest => max (depth item) (itemsDepth rest)

def membersDepth : List (Text × Json Text) → Nat
  | [] => 0
  | (_, value) :: rest => max (depth value) (membersDepth rest)

end

mutual

/-- Whether all numbers of a tree pass a test. -/
def allNumbers (test : Numeral → Bool) : Json Text → Bool
  | number value => test value
  | null | bool _ | string _ => true
  | array items => allItemNumbers test items
  | object members => allMemberNumbers test members

def allItemNumbers (test : Numeral → Bool) : List (Json Text) → Bool
  | [] => true
  | item :: rest => allNumbers test item && allItemNumbers test rest

def allMemberNumbers (test : Numeral → Bool) : List (Text × Json Text) → Bool
  | [] => true
  | (_, value) :: rest => allNumbers test value && allMemberNumbers test rest

end

/-- Enters a member into a list that is sorted by key. A member with the same key gives way. -/
def insertMember {Value : Type} (key : String) (value : Value) :
    List (String × Value) → List (String × Value)
  | [] => [(key, value)]
  | (first, held) :: rest =>
    if key = first then (key, value) :: rest
    else if key < first then (key, value) :: (first, held) :: rest
    else (first, held) :: insertMember key value rest

mutual

/-- The value that a JSON text stands for: the members of every object sorted by key, each key once,
with the last value given to it. -/
def canonical : Json String → Json String
  | null => null
  | bool value => bool value
  | number value => number value
  | string value => string value
  | array items => array (canonicalItems items)
  | object members => object (canonicalMembers [] members)

def canonicalItems : List (Json String) → List (Json String)
  | [] => []
  | item :: rest => canonical item :: canonicalItems rest

/-- Enters the values of the members of an object one after the other into a sorted list. -/
def canonicalMembers (entered : List (String × Json String)) :
    List (String × Json String) → List (String × Json String)
  | [] => entered
  | (key, value) :: rest => canonicalMembers (insertMember key (canonical value) entered) rest

end

/-- The last value that an object gives to a key. -/
def member? [DecidableEq Text] (key : Text) (members : List (Text × Json Text)) :
    Option (Json Text) :=
  (members.reverse.find? fun member => decide (member.1 = key)).map (·.2)

end Json

end SearchQuery
