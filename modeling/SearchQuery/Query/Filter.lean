import SearchQuery.Query.Legacy
import SearchQuery.Request.Basic

/-!
# The filters of a query

Every filter is a clause of its own, and a document has to pass all of them: the provider, the
access of the viewer, the two kinds of tags, and a filter for every group of patterns. The entries
of a group are alternatives; the legacy payloads among them are filters of their own.
-/

set_option autoImplicit false

namespace SearchQuery

/-- The user name that stands for everyone. -/
def Access.everyone : String := "__all"

/-- The clauses any of which lets a viewer see a document. -/
def Access.clauses (access : Access) : List Clause :=
  [.term "owner" access.viewer, .term "users" access.viewer, .term "users" Access.everyone] ++
    access.groups.map (.term "groups" ·) ++ access.circles.map (.term "circles" ·)

def Clause.providerFilter (provider : String) : Clause :=
  .ofGroup .must [.term "provider" provider]

def Access.filter (access : Access) : Clause :=
  .ofGroup .should access.clauses

/-- Lets documents through by their tags in a field. Without tags, the group is there all the
same. -/
def Clause.tagFilter (occur : Occur) (field : String) (tags : List String) : Clause :=
  .ofGroup occur (tags.map (.term field ·))

namespace FilterGroup

/-- The filter of a group of patterns with wildcards, which is there even if the group is empty. -/
def wildcardFilter (group : FilterGroup) : Clause :=
  .ofGroup .should (group.map fun entry => .wildcard entry.field entry.pattern)

def wildcardFilters (groups : List FilterGroup) : List Clause :=
  groups.map wildcardFilter

def legacyFilter (payload : String) : Reported Clause := do
  let info ← LegacyInfo.decode payload
  pure (.ofGroup .must info.clauses)

def legacyFilters (group : FilterGroup) : Reported (List Clause) :=
  Reported.forEach (fun entry => legacyFilter entry.pattern) (group.filter (·.isLegacy))

/-- The filter of the regular expressions of a group, if it has any. -/
def expressionFilters (group : FilterGroup) : List Clause :=
  match group.filter (!·.isLegacy) with
  | [] => []
  | entries => [.ofGroup .should (entries.map fun entry => .regexp entry.field entry.pattern)]

/-- The filters of a group of regular expressions: one for every legacy payload among them, and
after those one for the others. -/
def regexFilter (group : FilterGroup) : Reported (List Clause) := do
  let legacy ← legacyFilters group
  pure (legacy ++ group.expressionFilters)

def regexFilters (groups : List FilterGroup) : Reported (List Clause) := do
  let filters ← Reported.forEach regexFilter groups
  pure filters.flatten

end FilterGroup

namespace SearchRequest

def filters (request : SearchRequest) (access : Access) (provider : String) :
    Reported (List Clause) := do
  let expressions ← FilterGroup.regexFilters request.regexFilters
  pure ([.providerFilter provider, access.filter,
      .tagFilter .should "metatags" request.metaTags,
      .tagFilter .must "subtags" request.subTags] ++
    FilterGroup.wildcardFilters request.wildcardFilters ++ expressions)

end SearchRequest

end SearchQuery
