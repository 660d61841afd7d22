import SearchQuery.Event
import SearchQuery.Json.Strict
import SearchQuery.Query.Clause

/-!
# Legacy payloads

Older clients send structured filters as a JSON text in place of a regular expression. The text is
read leniently: whatever cannot be used gives way to a default and a warning, and nothing fails.
Only four members are understood.
-/

set_option autoImplicit false

namespace SearchQuery

structure LegacyInfo where
  /-- A part of the author's name; none if empty. -/
  author : String := ""
  recipient : String := ""
  /-- The lower bound of the date; none if it is `unbounded`. -/
  start : String := "0"
  /-- The upper bound of the date; none if it is `unbounded`. -/
  finish : String := "0"
  deriving DecidableEq, Repr

namespace LegacyInfo

/-- The date bound that stands for none. -/
def unbounded : String := "0"

def warning (message : String) (fields : List (String × FieldValue)) : Event where
  level := .warn
  target := "ftq_mapping::legacy"
  message := message
  fields := fields

/-- The text of a value, if it is a string or a number. -/
def scalarText? : Json String → Option String
  | .string text => some text
  | .number numeral => numeral.text?
  | _ => none

/-- The text of a member of a payload. A member that is missing or null gives the default, one that
is no string and no number gives it too, with a warning. -/
def memberText (members : List (String × Json String)) (key default : String) : Reported String :=
  match Json.member? key members with
  | none | some .null => pure default
  | some value =>
    match scalarText? value with
    | some text => pure text
    | none => do
      Reported.report
        (warning "ignoring legacy field" [("key", .text key), ("kind", .text value.kind)])
      pure default

def decode (payload : String) : Reported LegacyInfo :=
  match Json.strictValue? payload with
  | none => do
    Reported.report
      (warning "malformed legacy payload" [("payload", .text payload), ("error", .unstated)])
    pure {}
  | some (.object members) => do
    let author ← memberText members "author" ""
    let recipient ← memberText members "recipient" ""
    let start ← memberText members "start" unbounded
    let finish ← memberText members "end" unbounded
    pure { author, recipient, start, finish }
  | some value => do
    Reported.report (warning "legacy payload is not an object"
      [("payload", .text payload), ("kind", .text value.kind)])
    pure {}

/-- A clause that looks for a part of a name, unless that is empty. -/
def nameClauses (field part : String) : List Clause :=
  if part = "" then [] else [.wildcard field ("*" ++ part ++ "*")]

def clauses (info : LegacyInfo) : List Clause :=
  nameClauses "info_msg_author" info.author ++
    nameClauses "info_msg_recipient" info.recipient ++
    (if info.start = unbounded then [] else [.rangeFrom "info_msg_date" info.start]) ++
    (if info.finish = unbounded then [] else [.rangeTo "info_msg_date" info.finish])

end LegacyInfo

end SearchQuery
