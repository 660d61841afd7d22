/-!
# Command-line arguments

The arguments of a command are words and options in any order. A long option has its value in the
next argument or behind an equals sign; short options may be written together, and what follows one
that takes a value is its value. A value in an argument of its own does not look like an option. Two
dashes alone end the options. Every command has an option for help, behind which nothing is read.
-/

set_option autoImplicit false

namespace SearchQuery.Command

structure OptionSpec where
  long : String
  short : Option Char := none
  takesValue : Bool := true
  /-- Which values it takes. -/
  accepts : String → Bool := fun _ => true
  /-- Whether it may be given more than once. -/
  repeats : Bool := false

inductive Argument where
  | word (text : String)
  | flag (option : String)
  | value (option text : String)
  /-- Help is asked for. -/
  | help
  deriving DecidableEq, Repr

/-- Whether an argument looks like an option. A dash alone does not. -/
def looksLikeOption (argument : String) : Bool :=
  match argument.toList with
  | '-' :: _ :: _ => true
  | _ => false

/-- The argument that an option and its value make up. -/
def OptionSpec.withValue? (option : OptionSpec) (text : String) : Option Argument :=
  if option.accepts text then some (.value option.long text) else none

/-- Takes short options apart that are written together. The last one may be left without the value
that it takes. -/
def readShort? (options : List OptionSpec) :
    List Char → Option (List Argument × Option OptionSpec)
  | [] => some ([], none)
  | letter :: rest =>
    if letter = 'h' then some ([.help], none)
    else
      match options.find? (·.short == some letter) with
      | none => none
      | some option =>
        if option.takesValue then
          match rest with
          | [] => some ([], some option)
          | '=' :: text => (option.withValue? (String.ofList text)).map fun found => ([found], none)
          | text => (option.withValue? (String.ofList text)).map fun found => ([found], none)
        else (readShort? options rest).map fun (found, unfinished) =>
          (.flag option.long :: found, unfinished)

/-- Takes a long option apart. It may be left without the value that it takes. -/
def readLong? (options : List OptionSpec) (text : List Char) :
    Option (List Argument × Option OptionSpec) :=
  if text = "help".toList then some ([.help], none)
  else
    match options.find? (·.long.toList == text.takeWhile (· != '=')) with
    | none => none
    | some option =>
      match text.dropWhile (· != '='), option.takesValue with
      | [], false => some ([.flag option.long], none)
      | [], true => some ([], some option)
      | _ :: value, true =>
        (option.withValue? (String.ofList value)).map fun found => ([found], none)
      | _ :: _, false => none

def readOption? (options : List OptionSpec) (argument : String) :
    Option (List Argument × Option OptionSpec) :=
  match argument.toList with
  | '-' :: '-' :: text => readLong? options text
  | _ :: text => readShort? options text
  | [] => none

/-- Reads arguments up to the end, or up to where help is asked for. -/
def readArguments? (options : List OptionSpec) : List String → Option (List Argument)
  | [] => some []
  | argument :: rest =>
    if argument = "--" then some (rest.map .word)
    else if looksLikeOption argument then
      match readOption? options argument with
      | none => none
      | some (found, none) =>
        if .help ∈ found then some found else (readArguments? options rest).map (found ++ ·)
      | some (found, some option) =>
        match rest with
        | [] => none
        | value :: rest =>
          if looksLikeOption value then none
          else
            match option.withValue? value with
            | none => none
            | some argument => (readArguments? options rest).map (found ++ argument :: ·)
    else (readArguments? options rest).map (.word argument :: ·)

def wordsOf (arguments : List Argument) : List String :=
  arguments.filterMap fun
    | .word text => some text
    | _ => none

def valuesOf (name : String) (arguments : List Argument) : List String :=
  arguments.filterMap fun
    | .value option text => if option = name then some text else none
    | _ => none

def countOf (name : String) (arguments : List Argument) : Nat :=
  arguments.count (.flag name)

/-- Whether a flag is given. -/
def flag (name : String) (arguments : List Argument) : Bool :=
  arguments.contains (.flag name)

/-- The value of an option that is given no more than once. -/
def value? (name : String) (arguments : List Argument) : Option String :=
  (valuesOf name arguments).head?

/-- Whether no option is given too often. -/
def keepsToOnce (options : List OptionSpec) (arguments : List Argument) : Bool :=
  options.all fun option => option.repeats ||
    decide (countOf option.long arguments + (valuesOf option.long arguments).length ≤ 1)

end SearchQuery.Command
