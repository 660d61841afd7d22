import SearchQuery.Json.Writer
import SearchQuery.Term.Classify
import SearchQuery.Terminal.Style
import SearchQuery.Text.Layout

/-!
# The token table

How a search text is taken apart: for every token the term that it stands for, or why it is passed
over. The tokens are listed in a table or as JSON.
-/

set_option autoImplicit false

namespace SearchQuery.Command

structure TokenReport where
  token : String
  result : Except EmptyToken Term
  deriving Repr

namespace TokenReport

def analyze (search : String) : List TokenReport :=
  (Token.tokenize search).map fun token => ⟨token, Term.ofToken token⟩

def hasTerm (report : TokenReport) : Bool :=
  report.result.isOk

def toJson (report : TokenReport) : Json String :=
  .object (("token", .string report.token) ::
    match report.result with
    | .ok term => [
      ("word", .string term.word),
      ("polarity", .string term.polarity.key),
      ("match_mode", .string term.mode.key)]
    | .error error => [("skipped", .string error.message)])

/-- A text filled up with blanks to the width of a column. -/
def cell (width : Nat) (text : String) : String :=
  String.ofList (Text.padEnd width text.toList)

def row (report : TokenReport) : String :=
  "  " ++ cell 28 report.token ++ " " ++
    match report.result with
    | .ok term =>
      cell 9 term.polarity.key ++ " " ++ cell 20 (Terminal.dim term.mode.key) ++ " " ++ term.word
    | .error error => Terminal.warning error.message

end TokenReport

def tokenTable (reports : List TokenReport) : String :=
  reports.foldl (fun table report => table ++ report.row ++ "\n")
    (Terminal.header
      ("Tokens (" ++ String.ofList (Nat.toDigits 10 reports.length) ++ ")") ++ "\n")

def tokenJson (reports : List TokenReport) : String :=
  (Json.array (reports.map TokenReport.toJson)).pretty ++ "\n"

end SearchQuery.Command
