import SearchQuery.Text.CasingTable

/-!
# Lower-casing

Full lower-casing of a text in the sense of Unicode. Every character is mapped on its own, except
the capital sigma: at the end of a word it becomes the final form, elsewhere the ordinary one. One
character, the capital I with a dot above, becomes two.
-/

set_option autoImplicit false

namespace SearchQuery.Text

namespace CaseRun

/-- A run holds the code points at its steps between its first and its last letter. -/
def covers (run : CaseRun) (code : Nat) : Bool :=
  decide (run.first ≤ code) && decide (code ≤ run.last) && (code - run.first) % run.step == 0

def lower (run : CaseRun) (code : Nat) : Char :=
  Char.ofNat (Int.ofNat code + run.shift).toNat

end CaseRun

/-- The lower-case form of a character outside any word. -/
def lowerChar (c : Char) : List Char :=
  if c.toNat < 0x80 then [c.toLower]
  else if c = 'İ' then ['i', '\u0307']
  else match caseRuns.find? (·.covers c.toNat) with
    | some run => [run.lower c.toNat]
    | none => [c]

/-- Whether a text comes to a cased character once the case-ignorable ones at its start are
passed over. -/
def reachesCased (text : List Char) : Bool :=
  match text.dropWhile (inRanges caseIgnorableRanges) with
  | c :: _ => inRanges casedRanges c
  | [] => false

/-- A capital sigma between the characters `before` (the nearest first) and the text `after` ends a
word when a cased character comes before it and none after it. -/
def endsWord (before after : List Char) : Bool :=
  reachesCased before && !reachesCased after

/-- Lower-cases a text that follows the characters `before`, the nearest first. -/
def lowerAfter (before : List Char) : List Char → List Char
  | [] => []
  | 'Σ' :: rest => (if endsWord before rest then 'ς' else 'σ') :: lowerAfter ('Σ' :: before) rest
  | c :: rest => lowerChar c ++ lowerAfter (c :: before) rest

def lower (text : List Char) : List Char :=
  lowerAfter [] text

end SearchQuery.Text
