import SearchQuery.Command.Basic

/-!
# The request of a search

The request that a search is for is built from the one in a file, if there is one, and from the
options: words and numbers replace those of the file, and lists are put behind those of the file.
Without a file and without words no text is looked for.
-/

set_option autoImplicit false

namespace SearchQuery.Command.RequestOptions

/-- The request that the options build on when there is none in a file. -/
def base (pageSize : UInt64) : SearchRequest :=
  { size := pageSize }

def applyTo (options : RequestOptions) (request : SearchRequest) : SearchRequest where
  search := if options.words = [] then request.search else " ".intercalate options.words
  page := options.page.getD request.page
  size := options.size.getD request.size
  fields := request.fields ++ options.fields
  limitFields := request.limitFields ++ options.limitFields
  wildcardFields := request.wildcardFields ++ options.wildcardFields
  parts := request.parts ++ options.parts
  metaTags := request.metaTags ++ options.metaTags
  subTags := request.subTags ++ options.subTags
  wildcardFilters := request.wildcardFilters ++ options.wildcardFilters.map ([·])
  regexFilters := request.regexFilters ++ options.regexFilters.map ([·])

def build (file : Option SearchRequest) (options : RequestOptions) (pageSize : UInt64) :
    SearchRequest :=
  options.applyTo (file.getD (base pageSize))

end SearchQuery.Command.RequestOptions
