import SearchQuery.Text.Layout

/-!
# Templates of configuration files

A new configuration file is an example in which everything is commented out, so that it says
nothing.
-/

set_option autoImplicit false

namespace SearchQuery.Template

/-- A line of an example as a comment. Comments and empty lines are kept. -/
def commentLine : List Char → List Char
  | [] => []
  | '#' :: rest => '#' :: rest
  | line => '#' :: ' ' :: line

/-- A document with all its lines as comments, each with a line feed at its end. -/
def comment (document : List Char) : List Char :=
  (Text.lines document).flatMap fun line => commentLine line ++ ['\n']

def projectExample : String :=
    "# ftq configuration\n" ++
    "#\n" ++
    "# ftq looks for .ftq.toml files from the current directory up to the\n" ++
    "# filesystem root, then reads ~/.ftq.toml. Settings closer to the current\n" ++
    "# directory win. Set `root = true` to stop the upward search here.\n" ++
    "\n" ++
    "# Backend index that compiled queries target.\n" ++
    "[index]\n" ++
    "name = \"nextcloud\"\n" ++
    "\n" ++
    "[search]\n" ++
    "# Page size used when a request does not specify one.\n" ++
    "page_size = 20\n" ++
    "\n" ++
    "[log]\n" ++
    "# Default log filter (overridden by RUST_LOG or -v).\n" ++
    "level = \"warn\"\n"

def userExample : String :=
    "# Global ftq configuration (~/.ftq.toml)\n" ++
    "#\n" ++
    "# Lowest precedence: any .ftq.toml in or above the current directory\n" ++
    "# overrides these values.\n" ++
    "\n" ++
    "[index]\n" ++
    "name = \"nextcloud\"\n" ++
    "\n" ++
    "[log]\n" ++
    "level = \"warn\"\n"

def project : String :=
  String.ofList (comment projectExample.toList)

def user : String :=
  String.ofList (comment userExample.toList)

end SearchQuery.Template
