/-!
# The name of the index

Every query is sent to an index of the backend. Its name comes from the configuration files, and it
may be that none of them gives one.
-/

set_option autoImplicit false

namespace SearchQuery

def configFileName : String := ".ftq.toml"

/-- Where the name of the index comes from: it is known, or none has been configured. -/
inductive IndexName where
  | known (name : String)
  | missing
  deriving DecidableEq, Repr

namespace IndexName

def missingMessage : String :=
  "no search index configured: set `name` in the [index] section of " ++ configFileName

end IndexName

end SearchQuery
