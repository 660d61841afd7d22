import SearchQuery.Text.Blank
import SearchQuery.Text.LowerCase

/-!
# Tokens of a search text

A search text is lower-cased and cut into tokens at its blanks. A phrase between double quotes is
one token, blanks included, together with a plus or minus sign directly before it; a question mark
directly before a phrase is a token of its own. Quotes and backslashes stay as they are written. A
backslash inside a phrase takes the character after it along, so that a quote after a backslash does
not close the phrase. A quote that is never closed is an ordinary character.

`length_next?_lt` says that every token uses up some of the text, which is why the cutting ends.
-/

set_option autoImplicit false

namespace SearchQuery.Token

open SearchQuery.Text

/-- Whether a phrase whose opening quote has been read is closed later on. -/
def closes : List Char → Bool
  | [] => false
  | '"' :: _ => true
  | '\\' :: _ :: rest => closes rest
  | _ :: rest => closes rest

/-- Whether a closed phrase starts `skip` characters into a text. -/
def phraseFollows (skip : Nat) (text : List Char) : Bool :=
  match text.drop skip with
  | '"' :: rest => closes rest
  | _ => false

/-- Reads the rest of a phrase whose opening quote has been read, its closing quote included. What
is never closed is read to the end. -/
def readClosing : List Char → List Char × List Char
  | [] => ([], [])
  | '"' :: rest => (['"'], rest)
  | '\\' :: c :: rest =>
    let (phrase, unread) := readClosing rest
    ('\\' :: c :: phrase, unread)
  | c :: rest =>
    let (phrase, unread) := readClosing rest
    (c :: phrase, unread)

def readPhrase : List Char → List Char × List Char
  | [] => ([], [])
  | opening :: rest =>
    let (phrase, unread) := readClosing rest
    (opening :: phrase, unread)

/-- Reads up to the next blank, and gives the text from there on. -/
def readWord (text : List Char) : List Char × List Char :=
  (text.takeWhile (!isBlank ·), text.dropWhile (!isBlank ·))

/-- Reads the token at the start of a text that does not start with a blank, and gives the text
after it. -/
def readToken : List Char → List Char × List Char
  | [] => ([], [])
  | c :: rest =>
    if c = '?' ∧ phraseFollows 1 (c :: rest) then ([c], rest)
    else if (c = '+' ∨ c = '-') ∧ phraseFollows 1 (c :: rest) then
      let (phrase, unread) := readPhrase rest
      (c :: phrase, unread)
    else if phraseFollows 0 (c :: rest) then readPhrase (c :: rest)
    else readWord (c :: rest)

/-- The next token of a text and the text after it, unless only blanks are left. -/
def next? (text : List Char) : Option (List Char × List Char) :=
  match trimStart text with
  | [] => none
  | c :: rest => some (readToken (c :: rest))

theorem readClosing_append (text : List Char) :
    (readClosing text).1 ++ (readClosing text).2 = text := by
  fun_induction readClosing text <;> simp_all

theorem readPhrase_append (text : List Char) :
    (readPhrase text).1 ++ (readPhrase text).2 = text := by
  cases text with
  | nil => rfl
  | cons opening rest => simp [readPhrase, readClosing_append]

theorem readToken_append (text : List Char) :
    (readToken text).1 ++ (readToken text).2 = text := by
  cases text with
  | nil => rfl
  | cons c rest =>
    simp only [readToken]
    split
    · rfl
    · split
      · simp [readPhrase_append]
      · split
        · exact readPhrase_append _
        · simp [readWord]

theorem readToken_ne_nil (c : Char) (rest : List Char) (visible : isBlank c = false) :
    (readToken (c :: rest)).1 ≠ [] := by
  simp only [readToken]
  split
  · simp
  · split
    · simp
    · split
      · simp [readPhrase]
      · simp [readWord, visible]

private theorem trimStart_head (text : List Char) {c : Char} {rest : List Char}
    (found : trimStart text = c :: rest) : isBlank c = false := by
  have := List.head?_dropWhile_not isBlank text
  simp only [trimStart] at found
  simp_all

theorem length_next?_lt {text token unread : List Char} (found : next? text = some (token, unread)) :
    unread.length < text.length := by
  unfold next? at found
  split at found
  · cases found
  · rename_i c rest start
    simp only [Option.some.injEq] at found
    have whole := congrArg List.length (readToken_append (c :: rest))
    have some_read := readToken_ne_nil c rest (trimStart_head text start)
    have shorter : (c :: rest).length ≤ text.length := by
      rw [← start]
      exact (List.dropWhile_suffix isBlank).length_le
    rw [found] at whole some_read
    have := List.length_pos_iff.mpr some_read
    simp only [List.length_append] at whole this
    omega

/-- The tokens of a text that has been lower-cased. -/
def ofLowered (text : List Char) : List (List Char) :=
  match _found : next? text with
  | none => []
  | some (token, unread) => token :: ofLowered unread
termination_by text.length
decreasing_by exact length_next?_lt _found

def tokenize (search : String) : List String :=
  (ofLowered (lower search.toList)).map String.ofList

end SearchQuery.Token
