import SearchQuery.Terminal.JsonGrammar
import SearchQuery.Terminal.Style
import SearchQuery.Terminal.TomlGrammar

/-!
# Highlighting

A text is shown with all its spans in their colours. The grammar is named by an ending of file names,
or by the whole name of a file that is written in it; a text of no known grammar has one span a line.
-/

set_option autoImplicit false

namespace SearchQuery.Terminal

def jsonNames : List String := [
  "json", "sublime-settings", "sublime-menu", "sublime-keymap", "sublime-mousemap",
  "sublime-theme", "sublime-build", "sublime-project", "sublime-completions",
  "sublime-commands", "sublime-macro", "sublime-color-scheme", "ipynb", "pipfile.lock"]

def tomlNames : List String := ["toml", "tml", "cargo.lock", "gopkg.lock", "pipfile"]

/-- The grammar with a name; the case of the letters does not matter. -/
def grammarNamed (name : String) : Grammar :=
  if jsonNames.contains name.toLower then json
  else if tomlNames.contains name.toLower then toml
  else plainText

def highlight (grammar : Grammar) (text : String) : String :=
  String.ofList ((grammar.spans text.toList).flatMap Span.shown) ++ reset

end SearchQuery.Terminal
