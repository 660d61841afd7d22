import SearchQuery.Proofs.Text.Lines
import SearchQuery.Proofs.Toml.Statement
import SearchQuery.Settings.File
import SearchQuery.Settings.Template

/-!
# Templates say nothing

A document that has been made a comment, line by line, is a valid configuration file, and there is
nothing in it (`ofText?_comment`). Its lines are those of the document, one for one, with a mark in
front of those that had none (`lines_comment`), so that it stays as it is when it is made a comment
again. Both templates are such files.
-/

set_option autoImplicit false

namespace SearchQuery.Template

open SearchQuery.Text
open SearchQuery.Toml (CommentLine isPrintable read?_comments)

/-- A text whose characters may stand in comments, up to the ends of its lines: a carriage return
stands only before a line feed. -/
inductive CommentText : List Char → Prop where
  | nil : CommentText []
  | printable {c : Char} {rest : List Char} :
      isPrintable c = true → CommentText rest → CommentText (c :: rest)
  | lineFeed {rest : List Char} : CommentText rest → CommentText ('\n' :: rest)
  | carriageReturn {rest : List Char} : CommentText rest → CommentText ('\r' :: '\n' :: rest)

/-- The check of a text for its characters, one after the other. -/
def isCommentText : List Char → Bool
  | [] => true
  | '\n' :: rest => isCommentText rest
  | '\r' :: '\n' :: rest => isCommentText rest
  | c :: rest => isPrintable c && isCommentText rest

theorem ne_of_isPrintable {c : Char} (printable : isPrintable c = true) : c ≠ '\n' ∧ c ≠ '\r' := by
  constructor <;> rintro rfl <;> cases printable

theorem isCommentText_iff (text : List Char) : isCommentText text = true ↔ CommentText text := by
  constructor
  · intro passes
    fun_induction isCommentText text with
    | case1 => exact .nil
    | case2 rest ih => exact .lineFeed (ih passes)
    | case3 rest ih => exact .carriageReturn (ih passes)
    | case4 c rest _ _ ih =>
      obtain ⟨here, others⟩ := Bool.and_eq_true_iff.mp passes
      exact .printable here (ih others)
  · intro allowed
    induction allowed with
    | nil => rfl
    | @printable c rest here _ ih =>
      obtain ⟨notBreak, notReturn⟩ := ne_of_isPrintable here
      rw [isCommentText.eq_4 c rest notBreak fun _ same _ => notReturn same, here, ih]
      rfl
    | lineFeed _ ih => exact ih
    | carriageReturn _ ih => exact ih

instance (text : List Char) : Decidable (CommentText text) :=
  decidable_of_iff _ (isCommentText_iff text)

theorem CommentText.append {first second : List Char} (allowed : CommentText first)
    (alsoAllowed : CommentText second) : CommentText (first ++ second) := by
  induction allowed with
  | nil => exact alsoAllowed
  | printable here _ ih => exact .printable here ih
  | lineFeed _ ih => exact .lineFeed ih
  | carriageReturn _ ih => exact .carriageReturn ih

/-- What belongs to a line may stand in a comment. -/
theorem CommentText.printable_lines {document : List Char} (allowed : CommentText document) :
    ∀ line ∈ lines document, ∀ c ∈ line, isPrintable c = true := by
  induction allowed with
  | nil => exact List.forall_mem_nil _
  | @printable c rest here _ ih =>
    obtain ⟨notBreak, notReturn⟩ := ne_of_isPrintable here
    rw [lines_cons notBreak fun both => notReturn both.1]
    cases cut : lines rest with
    | nil => simpa using here
    | cons line others =>
      rw [cut] at ih
      obtain ⟨inLine, inOthers⟩ := List.forall_mem_cons.mp ih
      exact List.forall_mem_cons.mpr ⟨List.forall_mem_cons.mpr ⟨here, inLine⟩, inOthers⟩
  | @lineFeed rest _ ih =>
    rw [lines_lineFeed]
    exact List.forall_mem_cons.mpr ⟨List.forall_mem_nil _, ih⟩
  | @carriageReturn rest _ ih =>
    rw [lines_carriageReturn]
    exact List.forall_mem_cons.mpr ⟨List.forall_mem_nil _, ih⟩

/-!
## Lines as comments
-/

theorem isLine_of_printable {line : List Char} (printable : ∀ c ∈ line, isPrintable c = true) :
    IsLine line where
  noBreak member := (ne_of_isPrintable (printable _ member)).1 rfl
  noReturn isLast := (ne_of_isPrintable (printable _ (List.mem_of_getLast? isLast))).2 rfl

theorem commentLine_commentLine {line : List Char} (printable : ∀ c ∈ line, isPrintable c = true) :
    CommentLine (commentLine line) := by
  fun_cases commentLine line with
  | case1 => exact ⟨by simp, by simp⟩
  | case2 rest => exact ⟨by simp, printable⟩
  | case3 line =>
    refine ⟨by simp, ?_⟩
    simp only [List.forall_mem_cons]
    exact ⟨rfl, rfl, printable⟩

theorem commentLine_of_starts {line : List Char}
    (starts : ∀ c, line.head? = some c → c = '#') : commentLine line = line := by
  cases line with
  | nil => rfl
  | cons c rest =>
    obtain rfl := starts c rfl
    rfl

theorem commentLine_of_visible {line : List Char} (notEmpty : line ≠ [])
    (notComment : line.head? ≠ some '#') : commentLine line = '#' :: ' ' :: line := by
  fun_cases commentLine line with
  | case1 => exact absurd rfl notEmpty
  | case2 => exact absurd rfl notComment
  | case3 => rfl

theorem comment_eq (document : List Char) :
    comment document = ((lines document).map commentLine).flatMap (· ++ ['\n']) := by
  rw [comment, List.flatMap_map]

section

variable {document : List Char} (allowed : CommentText document)

include allowed

theorem commentLine_of_mem_map :
    ∀ line ∈ (lines document).map commentLine, CommentLine line :=
  List.forall_mem_map.mpr fun line member =>
    commentLine_commentLine (allowed.printable_lines line member)

theorem lines_comment : lines (comment document) = (lines document).map commentLine := by
  rw [comment_eq]
  exact lines_flatMap_lineFeed fun line member =>
    isLine_of_printable (commentLine_of_mem_map allowed line member).printable

theorem comment_comment : comment (comment document) = comment document := by
  have kept : ∀ line ∈ (lines document).map commentLine, commentLine line = line :=
    fun line member => commentLine_of_starts (commentLine_of_mem_map allowed line member).starts
  rw [comment_eq (comment document), lines_comment allowed, List.map_congr_left kept, List.map_id',
    ← comment_eq]

theorem ofText?_comment : FileSettings.ofText? (String.ofList (comment document)) = some {} := by
  rw [FileSettings.ofText?, String.toList_ofList, comment_eq,
    read?_comments (commentLine_of_mem_map allowed)]
  rfl

end

/-- A document that has been made a comment has its lines, one for one: a comment is the same line
as before, and every other line that is not empty has a mark in front. It stays as it is when it is
made a comment again, and as a configuration file it says nothing. -/
theorem comment_is_inert {document : List Char} (allowed : CommentText document) :
    let commented := comment document
    (∀ line ∈ lines commented, line = [] ∨ line.head? = some '#') ∧
    (lines commented).length = (lines document).length ∧
    comment commented = commented ∧
    (∀ (place : Nat) (line : List Char), (lines document)[place]? = some line →
      (line.head? = some '#' → (lines commented)[place]? = some line) ∧
      (line ≠ [] → line.head? ≠ some '#' →
        (lines commented)[place]? = some ('#' :: ' ' :: line))) ∧
    FileSettings.ofText? (String.ofList commented) =
      some { root := none, index := none, search := none, log := none } := by
  intro commented
  have linesAre : lines commented = (lines document).map commentLine := lines_comment allowed
  have atPlace {place : Nat} {line : List Char} (isThere : (lines document)[place]? = some line) :
      (lines commented)[place]? = some (commentLine line) := by
    rw [linesAre, List.getElem?_map, isThere]
    rfl
  refine ⟨fun line member => ?_, ?_, comment_comment allowed,
    fun place line isThere => ⟨fun isComment => ?_, fun notEmpty notComment => ?_⟩,
    ofText?_comment allowed⟩
  · rw [linesAre] at member
    have starts := (commentLine_of_mem_map allowed line member).starts
    cases line with
    | nil => exact .inl rfl
    | cons c rest => exact .inr (congrArg some (starts c rfl))
  · rw [linesAre, List.length_map]
  · rw [atPlace isThere, commentLine_of_starts]
    intro c first
    exact Option.some.inj (first.symm.trans isComment)
  · rw [atPlace isThere, commentLine_of_visible notEmpty notComment]

/-- Lines of a string that goes over several lines, a line of blanks only, a comment that does not
start its line, line feeds with and without a carriage return, and none at the end. -/
theorem comment_is_inert_cut_string :
    let document := "# a\r\n[index]\r\n\n \nname = '''\r\n#b\n'''\n  # c\td".toList
    let commented := "# a\n# [index]\n\n#  \n# name = '''\n#b\n# '''\n#   # c\td\n".toList
    CommentText document ∧ comment document = commented ∧ comment commented = commented ∧
      (lines commented).length = 8 ∧
      FileSettings.ofText? (String.ofList commented) = some {} := by
  intro document commented
  have allowed : CommentText document := by decide
  have isComment : comment document = commented := by decide
  have inert := comment_is_inert allowed
  rw [isComment] at inert
  exact ⟨allowed, isComment, inert.2.2.1, inert.2.1, inert.2.2.2.2⟩

/-!
## The two templates
-/

theorem commentText_ofList {text : List Char} (passes : isCommentText text = true) :
    CommentText (String.ofList text).toList := by
  rw [String.toList_ofList]
  exact (isCommentText_iff text).mp passes

theorem commentText_append {first second : String} (allowed : CommentText first.toList)
    (alsoAllowed : CommentText second.toList) : CommentText (first ++ second).toList := by
  rw [String.toList_append]
  exact allowed.append alsoAllowed

-- The examples are taken apart into their lines, since long texts are slow to evaluate.

theorem commentText_projectExample : CommentText projectExample.toList := by
  unfold projectExample
  iterate 16 refine commentText_append ?_ (commentText_ofList (by decide))
  exact commentText_ofList (by decide)

theorem commentText_userExample : CommentText userExample.toList := by
  unfold userExample
  iterate 9 refine commentText_append ?_ (commentText_ofList (by decide))
  exact commentText_ofList (by decide)

theorem ofText?_project : FileSettings.ofText? project = some {} :=
  ofText?_comment commentText_projectExample

theorem ofText?_user : FileSettings.ofText? user = some {} :=
  ofText?_comment commentText_userExample

end SearchQuery.Template
