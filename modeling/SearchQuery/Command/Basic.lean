import SearchQuery.Files.Path
import SearchQuery.Request.Basic

/-!
# Commands

What a user can ask the program to do. All commands but one only print something; that one writes a
new configuration file.
-/

set_option autoImplicit false

namespace SearchQuery.Command

/-- What the arguments of a command say about a search request. -/
structure RequestOptions where
  words : List String := []
  page : Option UInt64 := none
  size : Option UInt64 := none
  fields : List String := []
  limitFields : List String := []
  wildcardFields : List String := []
  parts : List String := []
  metaTags : List String := []
  subTags : List String := []
  /-- Filters each of which is a group of its own. -/
  wildcardFilters : List FilterEntry := []
  /-- Filters each of which is a group of its own. -/
  regexFilters : List FilterEntry := []
  deriving DecidableEq, Repr

structure SearchOptions where
  provider : String
  access : Access
  /-- The file with the request that the options build on. -/
  requestFile : Option Path := none
  request : RequestOptions := {}
  compact : Bool := false
  deriving DecidableEq, Repr

structure LookupOptions where
  provider : String
  document : String
  compact : Bool := false
  deriving DecidableEq, Repr

structure TokenOptions where
  words : List String
  json : Bool := false
  deriving DecidableEq, Repr

structure InitOptions where
  /-- Whether the file is that of the user. -/
  user : Bool := false
  /-- Whether a file that is there already is replaced. -/
  force : Bool := false
  deriving DecidableEq, Repr

/-- A command that only prints something. -/
inductive Inquiry where
  | compile (options : SearchOptions)
  | get (options : LookupOptions)
  | tokens (options : TokenOptions)
  | config
  deriving DecidableEq, Repr

end SearchQuery.Command

namespace SearchQuery

inductive Command where
  | inquire (inquiry : Command.Inquiry)
  | init (options : Command.InitOptions)
  deriving DecidableEq, Repr

/-- A command and how much of what happens during its run is to be logged. -/
structure Invocation where
  verbosity : Nat := 0
  command : Command
  deriving DecidableEq, Repr

/-- What the program is told to do. -/
inductive Instruction where
  | run (invocation : Invocation)
  /-- To show its help. No command is run. -/
  | help
  deriving DecidableEq, Repr

def Instruction.invocation? : Instruction → Option Invocation
  | run invocation => some invocation
  | help => none

end SearchQuery
