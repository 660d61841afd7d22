import SearchQuery.Event
import SearchQuery.Text.AlphanumericTable
import SearchQuery.Text.Blank
import SearchQuery.Text.Natural
import SearchQuery.Text.Pattern
import SearchQuery.Text.Pieces

/-!
# Log filters

A log filter says which events a reader gets to see. It is a list of rules with commas between them.
A rule is a level for all events, a target and the level for its events, or a target all of whose
events are shown. In brackets behind the target, a rule may name a field that the events must have.

Of the rules whose target an event's target starts with and whose field the event has, the one with
the longest target decides; of several, one that names a field, and of these the one whose field
comes last by its name; and of several that agree in this, the last. An event that no rule is for is
not shown.
-/

set_option autoImplicit false

namespace SearchQuery

structure LogRule where
  /-- What the targets of the events start with. -/
  target : String := ""
  /-- The field that the events have, if the rule names one. -/
  field : Option String := none
  /-- Whether the rule is only for events inside of spans of work, which have a name or fields with
  certain values. There are no such events. -/
  inSpan : Bool := false
  threshold : Nat := Level.trace.rank
  deriving DecidableEq, Repr

namespace LogRule

/-- The threshold that no level reaches. -/
def off : Nat := 6

/-- The threshold with a name, in letters of either case, or with a number: the higher the number,
the more is shown. -/
def threshold? (name : List Char) : Option Nat :=
  let lower := name.map Char.toLower
  match Text.natural? name with
  | some n => if n < off then some (off - n) else none
  | none =>
    if lower = ['o', 'f', 'f'] then some off
    else
      ([Level.trace, .debug, .info, .warn, .error].find? fun level =>
        level.name.toList.map Char.toLower == lower).map Level.rank

/-- The threshold that stands behind a target. Nothing at all stands for the least one. -/
def thresholdAfter? : List Char → Option Nat
  | [] => some Level.trace.rank
  | name => threshold? name

def mayStart (c : Char) : Bool :=
  c == '-' || c == ':' || c == '_' || c == '[' || Text.isAlphanumeric c

/-- Whether a text is a number with a plus sign, which is a value although it is no expression. -/
def isSignedNumber : List Char → Bool
  | '+' :: rest =>
    let mantissa := rest.takeWhile fun c => c != 'e' && c != 'E'
    let whole := mantissa.takeWhile Char.isDigit
    let fraction := mantissa.dropWhile Char.isDigit
    let exponent := match rest.dropWhile fun c => c != 'e' && c != 'E' with
      | [] => ['0']
      | _ :: '+' :: digits => digits
      | _ :: '-' :: digits => digits
      | _ :: digits => digits
    let words := [['i', 'n', 'f'], ['i', 'n', 'f', 'i', 'n', 'i', 't', 'y'], ['n', 'a', 'n']]
    words.contains (rest.map Char.toLower) ||
      ((whole ++ fraction).any Char.isDigit && (fraction.take 1).all (· == '.') &&
        (fraction.drop 1).all Char.isDigit && !exponent.isEmpty && exponent.all Char.isDigit)
  | _ => false

/-- The name of the field that a text in braces spells, and whether it has to have a certain value:
a number or a regular expression behind an equals sign. What follows a second equals sign does not
count. -/
def fieldTest? (text : List Char) : Option (String × Bool) :=
  let name := String.ofList (text.takeWhile (· != '='))
  match text.dropWhile (· != '=') with
  | [] => if text.isEmpty then none else some (name, false)
  | _ :: rest =>
    let value := rest.takeWhile (· != '=')
    if isSignedNumber value || Text.Pattern.isPattern value then some (name, true) else none

/-- A rule with the threshold that stands behind an equals sign, if there is one. What is left to be
read of the text without the blanks around it is given; the threshold is taken from the text with
them. -/
def withThreshold? (text left : List Char) (rule : LogRule) : Option LogRule :=
  match left with
  | [] => some rule
  | '=' :: name =>
    (thresholdAfter? (text.drop ((Text.trim text).length - name.length))).map fun threshold =>
      { rule with threshold }
  | _ => none

/-- The rule for a target whose opening bracket has been read. -/
def withConditions? (text left : List Char) (target : String) : Option LogRule :=
  let span := left.takeWhile fun c => c != ']' && c != '\x7b'
  match left.drop span.length with
  | ']' :: rest => withThreshold? text rest { target, inSpan := true }
  | '\x7b' :: fields =>
    let length := (fields.takeWhile (· != '\x7d')).length
    match fields.drop length with
    | '\x7d' :: ']' :: rest =>
      let written := (text.drop ((Text.trim text).length - fields.length)).take length
      (fieldTest? written).bind fun (name, tested) =>
        withThreshold? text rest { target, field := some name, inSpan := tested || !span.isEmpty }
    | _ => none
  | _ => none

/-- The rule that a text spells. Blanks around it do not belong to it, but they stay in the names
that are taken from it. -/
def ofText? (text : List Char) : Option LogRule :=
  let trimmed := Text.trim text
  let length := (trimmed.takeWhile fun c => c != '=' && c != '[').length
  let target := String.ofList (text.take length)
  if !trimmed.head?.any mayStart then none
  else match trimmed.drop length with
    | [] =>
      match threshold? text with
      | some threshold => some { threshold }
      | none => some { target := String.ofList text }
    | '[' :: rest => withConditions? text rest target
    | rest => withThreshold? text rest { target }

def isFor (rule : LogRule) (event : Event) : Bool :=
  !rule.inSpan && rule.target.toList.isPrefixOf event.target.toList &&
    rule.field.all fun name => event.fieldNames.contains name

/-- Whether a rule decides about an event in place of one before it, where both are for the event. -/
def overrides (rule held : LogRule) : Bool :=
  if rule.target.length = held.target.length then
    match held.field, rule.field with
    | none, _ => true
    | some _, none => false
    | some first, some second => decide (first ≤ second)
  else decide (held.target.length < rule.target.length)

end LogRule

structure LogFilter where
  rules : List LogRule
  deriving DecidableEq, Repr

namespace LogFilter

def only (level : Level) : LogFilter :=
  ⟨[{ target := "", threshold := level.rank }]⟩

/-- The filter that a text spells. One without rules shows errors only. -/
def ofText? (text : String) : Option LogFilter :=
  match (Text.pieces ',' text.toList).filter (!·.isEmpty) with
  | [] => some (only .error)
  | written => (written.mapM LogRule.ofText?).map (⟨·⟩)

def deciding? (filter : LogFilter) (event : Event) : Option LogRule :=
  (filter.rules.filter (·.isFor event)).foldl (fun best rule =>
    match best with
    | none => some rule
    | some held => if rule.overrides held then some rule else some held) none

def shows (filter : LogFilter) (event : Event) : Bool :=
  match filter.deciding? event with
  | some rule => decide (rule.threshold ≤ event.level.rank)
  | none => false

/-- The text of the filter for a verbosity: none asked for leaves the configured one. -/
def textFor (configured : String) : Nat → String
  | 0 => configured
  | 1 => "debug"
  | _ => "trace"

/-- The filter of a run: the one that is given for the run if it is valid, else the one for the
verbosity if that is valid, else warnings and errors. -/
def choose (given : Option String) (verbosity : Nat) (configured : String) : LogFilter :=
  match given.bind ofText? with
  | some filter => filter
  | none => (ofText? (textFor configured verbosity)).getD (only .warn)

end LogFilter

end SearchQuery
