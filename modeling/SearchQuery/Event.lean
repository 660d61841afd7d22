import SearchQuery.Text.Quoted

/-!
# Events

What a computation has to report besides its result: warnings about input it passes over, and notes
on its progress. Events are values. A computation that reports returns its events beside its result,
in the order in which they happened; which of them a reader gets to see is decided elsewhere.
-/

set_option autoImplicit false

namespace SearchQuery

inductive Level where
  | trace | debug | info | warn | error
  deriving DecidableEq, Repr

namespace Level

def name : Level → String
  | trace => "TRACE"
  | debug => "DEBUG"
  | info => "INFO"
  | warn => "WARN"
  | error => "ERROR"

/-- The rank of a level: the more it matters, the higher. -/
def rank : Level → Nat
  | trace => 1
  | debug => 2
  | info => 3
  | warn => 4
  | error => 5

end Level

inductive FieldValue where
  /-- A text that is shown between quotes. -/
  | text (value : String)
  /-- A text that is shown as it is. -/
  | plain (value : String)
  | number (value : Nat)
  /-- A description whose wording is left open: all that is known is that the field is there. -/
  | unstated
  deriving DecidableEq, Repr

namespace FieldValue

/-- The value itself, as a text without quotes. -/
def content? : FieldValue → Option String
  | text value => some value
  | plain value => some value
  | number value => some (String.ofList (Nat.toDigits 10 value))
  | unstated => none

/-- The value as a log line shows it. -/
def shown? : FieldValue → Option String
  | text value => some (Text.quoted value)
  | plain value => some value
  | number value => some (String.ofList (Nat.toDigits 10 value))
  | unstated => none

end FieldValue

structure Event where
  level : Level
  /-- The part of the program that reports the event; log filters select by it. -/
  target : String
  message : String
  /-- The details, in the order in which they are shown. -/
  fields : List (String × FieldValue)
  deriving DecidableEq, Repr

namespace Event

/-- A field as a log line shows it: nothing if its value is left open. -/
def fieldText (field : String × FieldValue) : String :=
  match field.2.shown? with
  | some value => " " ++ field.1 ++ "=" ++ value
  | none => ""

def line (event : Event) : String :=
  event.fields.foldl (fun shown field => shown ++ fieldText field)
    (event.level.name ++ " " ++ event.message)

/-- The fields of an event whose values are known, as texts without quotes. -/
def statedFields (event : Event) : List (String × String) :=
  event.fields.filterMap fun field => field.2.content?.map fun value => (field.1, value)

/-- The names of all fields of an event. The message is a field, too. -/
def fieldNames (event : Event) : List String :=
  "message" :: event.fields.map (·.1)

end Event

/-- A result together with the events on the way to it, the earliest first. -/
structure Reported (α : Type) where
  value : α
  events : List Event := []
  deriving Repr

namespace Reported

variable {α β : Type}

def bind (first : Reported α) (next : α → Reported β) : Reported β :=
  let second := next first.value
  ⟨second.value, first.events ++ second.events⟩

instance : Monad Reported where
  pure value := ⟨value, []⟩
  bind := bind

def report (event : Event) : Reported Unit :=
  ⟨(), [event]⟩

@[simp] theorem value_pure (value : α) : (pure value : Reported α).value = value := rfl

@[simp] theorem events_pure (value : α) : (pure value : Reported α).events = [] := rfl

@[simp] theorem value_bind (first : Reported α) (next : α → Reported β) :
    (first >>= next).value = (next first.value).value := rfl

@[simp] theorem events_bind (first : Reported α) (next : α → Reported β) :
    (first >>= next).events = first.events ++ (next first.value).events := rfl

@[simp] theorem events_report (event : Event) : (report event).events = [event] := rfl

def forEach (step : α → Reported β) : List α → Reported (List β)
  | [] => pure []
  | item :: rest => do
    let first ← step item
    let others ← forEach step rest
    pure (first :: others)

theorem value_forEach (step : α → Reported β) (items : List α) :
    (forEach step items).value = items.map fun item => (step item).value := by
  induction items with
  | nil => rfl
  | cons item rest ih => simp [forEach, ih]

theorem events_forEach (step : α → Reported β) (items : List α) :
    (forEach step items).events = items.flatMap fun item => (step item).events := by
  induction items with
  | nil => rfl
  | cons item rest ih => simp [forEach, ih]

end Reported

end SearchQuery
