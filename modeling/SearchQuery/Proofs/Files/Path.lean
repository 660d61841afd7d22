import Mathlib.Data.List.Infix
import Mathlib.Data.List.Nodup
import Mathlib.Data.List.TakeWhile
import SearchQuery.Files.Path

/-!
# Forms of paths

Two paths are the same when they have the same form: what they start with, and their names
(`sameAs_iff`). The parent of a path has one name less (`parent?_cases`), and a joined path has one
name more (`form_join`). So the ancestors of a path have the initial parts of its names as theirs,
the longest first (`map_form_ancestors`), and no two of them are the same.
-/

set_option autoImplicit false

namespace SearchQuery

namespace Text

theorem pieces_append (separator : Char) (before after : List Char) :
    pieces separator (before ++ separator :: after) =
      pieces separator before ++ pieces separator after := by
  induction before with
  | nil => simp [pieces]
  | cons c rest ih =>
    simp only [List.cons_append, pieces]
    split
    · rw [ih, List.cons_append]
    · rw [ih]
      cases found : pieces separator rest with
      | nil => exact absurd found (pieces_ne_nil separator rest)
      | cons first others => rfl

theorem pieces_of_not_mem {separator : Char} {text : List Char} (whole : separator ∉ text) :
    pieces separator text = [text] := by
  induction text with
  | nil => rfl
  | cons c rest ih =>
    rw [List.mem_cons, not_or] at whole
    rw [pieces, if_neg (Ne.symm whole.1), ih whole.2]

end Text

namespace Path

/-- What a path starts with: a slash, a dot, or nothing that is kept apart from the names. -/
def lead (path : Path) : List Char :=
  (splitLead path.text.toList).1

/-- A path up to the slashes and dots that do not count. -/
def form (path : Path) : List Char × List (List Char) :=
  (path.lead, path.names)

theorem sameAs_iff (first second : Path) :
    first.sameAs second = true ↔ first.form = second.form := by
  rw [sameAs, Bool.and_eq_true, beq_iff_eq, beq_iff_eq, form, form, Prod.mk.injEq]
  rfl

/-!
## Names in a text
-/

/-- The names in a text without what a path starts with. -/
def namesIn (text : List Char) : List (List Char) :=
  (segments text).filter (!isBlankSegment ·)

theorem namesIn_append (before after : List Char) :
    namesIn (before ++ '/' :: after) = namesIn before ++ namesIn after := by
  rw [namesIn, segments, Text.pieces_append, List.filter_append]
  rfl

theorem namesIn_slash (before : List Char) : namesIn (before ++ ['/']) = namesIn before :=
  (namesIn_append before []).trans (List.append_nil _)

theorem namesIn_name {name : List Char} (whole : '/' ∉ name)
    (visible : isBlankSegment name = false) : namesIn name = [name] := by
  rw [namesIn, segments, Text.pieces_of_not_mem whole, List.filter_singleton, visible]
  rfl

/-!
## What a path starts with
-/

/-- The text up to the first slash. -/
def firstSegment (text : List Char) : List Char :=
  text.takeWhile (· != '/')

theorem firstSegment_append (before after : List Char) :
    firstSegment (before ++ '/' :: after) = firstSegment before := by
  induction before with
  | nil => rfl
  | cons c rest ih =>
    simp only [firstSegment, List.cons_append, List.takeWhile_cons] at ih ⊢
    split
    · rw [ih]
    · rfl

theorem firstSegment_of_not_mem {text : List Char} (whole : '/' ∉ text) :
    firstSegment text = text := by
  refine List.takeWhile_eq_self_iff.mpr fun c member => ?_
  rw [bne_iff_ne]
  exact fun isSlash => whole (isSlash ▸ member)

theorem firstSegment_eq_nil_iff (text : List Char) :
    firstSegment text = [] ↔ text = [] ∨ ∃ rest, text = '/' :: rest := by
  cases text with
  | nil => simp [firstSegment]
  | cons c rest => simp [firstSegment, List.takeWhile_cons]

theorem isBlankSegment_iff (segment : List Char) :
    isBlankSegment segment = true ↔ segment = [] ∨ segment = ['.'] := by
  simp [isBlankSegment]

theorem firstSegment_eq_dot_iff (text : List Char) :
    firstSegment text = ['.'] ↔ text = ['.'] ∨ ∃ rest, text = '.' :: '/' :: rest := by
  cases text with
  | nil => simp [firstSegment]
  | cons c rest =>
    by_cases isSlash : c = '/'
    · simp [firstSegment, isSlash]
    · have later := firstSegment_eq_nil_iff rest
      simp only [firstSegment] at later ⊢
      rw [List.takeWhile_cons_of_pos (by simpa using isSlash), List.cons.injEq, later]
      grind

/-- What may stand behind each of the ways in which a path starts. -/
inductive Leads : List Char → List Char → Prop where
  | slash (body : List Char) : Leads ['/'] body
  | dot {body : List Char} (ends : firstSegment body = []) : Leads ['.'] body
  | none {body : List Char} (named : body = [] ∨ isBlankSegment (firstSegment body) = false) :
      Leads [] body

theorem Leads.lead_cases {lead body : List Char} (leads : Leads lead body) :
    lead = ['/'] ∨ lead = ['.'] ∨ lead = [] := by
  cases leads with
  | slash => exact .inl rfl
  | dot _ => exact .inr (.inl rfl)
  | none _ => exact .inr (.inr rfl)

theorem leads_splitLead (text : List Char) :
    Leads (splitLead text).1 (splitLead text).2 ∧
      (splitLead text).1 ++ (splitLead text).2 = text := by
  unfold splitLead
  split
  · exact ⟨.slash _, rfl⟩
  · exact ⟨.dot rfl, rfl⟩
  · exact ⟨.dot rfl, rfl⟩
  · rename_i notSlash notDot notDotSlash
    refine ⟨.none ?_, rfl⟩
    rw [← Bool.not_eq_true, isBlankSegment_iff, firstSegment_eq_nil_iff, firstSegment_eq_dot_iff]
    grind

theorem Leads.splitLead_append {lead body : List Char} (leads : Leads lead body) :
    splitLead (lead ++ body) = (lead, body) := by
  cases leads with
  | slash => rfl
  | dot ends =>
    obtain rfl | ⟨rest, rfl⟩ := (firstSegment_eq_nil_iff body).mp ends
    · rfl
    · rfl
  | none named =>
    rw [← Bool.not_eq_true, isBlankSegment_iff, firstSegment_eq_nil_iff,
      firstSegment_eq_dot_iff] at named
    rw [List.nil_append]
    unfold splitLead
    grind

/-- A path may be cut at a slash. -/
theorem Leads.cut {lead before after : List Char} (leads : Leads lead (before ++ '/' :: after)) :
    Leads lead before := by
  cases leads with
  | slash => exact .slash _
  | dot ends => exact .dot (firstSegment_append before after ▸ ends)
  | none named =>
    rw [firstSegment_append] at named
    refine .none (.inr (named.resolve_left ?_))
    simp

theorem Leads.behind {lead before after : List Char} (leads : Leads lead (before ++ '/' :: after))
    (other : List Char) : Leads lead (before ++ '/' :: other) := by
  cases leads with
  | slash => exact .slash _
  | dot ends =>
    rw [firstSegment_append] at ends
    exact .dot ((firstSegment_append before other).trans ends)
  | none named =>
    rw [firstSegment_append] at named
    refine .none (.inr (firstSegment_append before other ▸ named.resolve_left ?_))
    simp

theorem Leads.extend {lead body : List Char} (leads : Leads lead body)
    (nonempty : lead ++ body ≠ []) (other : List Char) : Leads lead (body ++ '/' :: other) := by
  cases leads with
  | slash => exact .slash _
  | dot ends => exact .dot ((firstSegment_append body other).trans ends)
  | none named =>
    exact .none (.inr (firstSegment_append body other ▸ named.resolve_left nonempty))

theorem Leads.nil {lead body : List Char} (leads : Leads lead body) : Leads lead [] := by
  cases leads with
  | slash => exact .slash _
  | dot ends => exact .dot rfl
  | none named => exact .none (.inl rfl)

/-- The part of a path behind what it starts with. -/
def body (path : Path) : List Char :=
  (splitLead path.text.toList).2

theorem leads_body (path : Path) : Leads path.lead path.body :=
  (leads_splitLead path.text.toList).1

theorem lead_append_body (path : Path) : path.lead ++ path.body = path.text.toList :=
  (leads_splitLead path.text.toList).2

theorem form_eq (path : Path) : path.form = (path.lead, namesIn path.body) :=
  rfl

theorem form_of_text {path : Path} {lead body : List Char} (leads : Leads lead body)
    (text : path.text.toList = lead ++ body) : path.form = (lead, namesIn body) := by
  rw [form_eq, Path.lead, Path.body, text, leads.splitLead_append]

/-!
## The end of a path
-/

theorem namesIn_dropBlankEnd (reversed : List Char) :
    namesIn (dropBlankEnd reversed).reverse = namesIn reversed.reverse := by
  fun_induction dropBlankEnd reversed with
  | case1 rest ih => rw [ih, List.reverse_cons, namesIn_slash]
  | case2 rest ih =>
    rw [ih, List.reverse_cons, List.reverse_cons, List.reverse_cons, namesIn_slash,
      List.append_assoc]
    exact ((namesIn_append _ ['.']).trans (List.append_nil _)).symm
  | case3 => rfl
  | case4 text => rfl

theorem firstSegment_dropBlankEnd (reversed : List Char) :
    dropBlankEnd reversed = [] ∨
      isBlankSegment (firstSegment (dropBlankEnd reversed)) = false := by
  fun_induction dropBlankEnd reversed with
  | case1 rest ih => exact ih
  | case2 rest ih => exact ih
  | case3 => exact .inl rfl
  | case4 text =>
    rw [← Bool.not_eq_true, isBlankSegment_iff, firstSegment_eq_nil_iff, firstSegment_eq_dot_iff]
    grind

theorem dropBlankEnd_suffix (reversed : List Char) :
    dropBlankEnd reversed = [] ∨ dropBlankEnd reversed = reversed ∨
      ∃ dropped, reversed = dropped ++ '/' :: dropBlankEnd reversed := by
  fun_induction dropBlankEnd reversed with
  | case1 rest ih =>
    rcases ih with empty | same | ⟨dropped, isRest⟩
    · exact .inl empty
    · exact .inr (.inr ⟨[], by rw [same]; rfl⟩)
    · exact .inr (.inr ⟨'/' :: dropped, congrArg ('/' :: ·) isRest⟩)
  | case2 rest ih =>
    rcases ih with empty | same | ⟨dropped, isRest⟩
    · exact .inl empty
    · have visible := firstSegment_dropBlankEnd ('/' :: rest)
      rw [same] at visible
      exact absurd visible (by simp [firstSegment, isBlankSegment])
    · exact .inr (.inr ⟨'.' :: dropped, congrArg ('.' :: ·) isRest⟩)
  | case3 => exact .inl rfl
  | case4 text => exact .inr (.inl rfl)

theorem Leads.dropBlankEnd {lead reversed : List Char} (leads : Leads lead reversed.reverse) :
    Leads lead (dropBlankEnd reversed).reverse := by
  rcases dropBlankEnd_suffix reversed with empty | same | ⟨dropped, isReversed⟩
  · rw [empty]
    exact leads.nil
  · rw [same]
    exact leads
  · rw [isReversed, List.reverse_append, List.reverse_cons, List.append_assoc] at leads
    exact leads.cut

theorem length_dropBlankEnd_le (reversed : List Char) :
    (dropBlankEnd reversed).length ≤ reversed.length := by
  rcases dropBlankEnd_suffix reversed with empty | same | ⟨dropped, isReversed⟩
  · simp [empty]
  · rw [same]
  · have lengths := congrArg List.length isReversed
    simp only [List.length_append, List.length_cons] at lengths
    omega

/-!
## Parents
-/

/-- A path, backwards and without a blank end, after its last name has been left off. -/
def withoutName (named : List Char) : List Char :=
  dropBlankEnd (named.dropWhile (· != '/'))

/-- A text is one segment, or a segment and what stands behind the slash after it. -/
theorem withoutName_cases (named : List Char) :
    (withoutName named = [] ∧ firstSegment named = named) ∨
      ∃ rest, withoutName named = dropBlankEnd rest ∧
        firstSegment named ++ '/' :: rest = named := by
  have whole : firstSegment named ++ named.dropWhile (· != '/') = named :=
    List.takeWhile_append_dropWhile
  rw [withoutName]
  cases behind : named.dropWhile (· != '/') with
  | nil =>
    rw [behind, List.append_nil] at whole
    exact .inl ⟨rfl, whole⟩
  | cons c rest =>
    have head := List.head?_dropWhile_not (· != '/') named
    rw [behind] at head whole
    have isSlash : c = '/' := by simpa using head
    subst isSlash
    exact .inr ⟨rest, rfl, whole⟩

theorem not_mem_firstSegment (text : List Char) : '/' ∉ firstSegment text := by
  intro member
  have passes := List.all_eq_true.mp (List.all_takeWhile (p := (· != '/')) (l := text)) '/' member
  cases passes

theorem namesIn_withoutName {named : List Char}
    (visible : isBlankSegment (firstSegment named) = false) :
    namesIn named.reverse =
      namesIn (withoutName named).reverse ++ [(firstSegment named).reverse] := by
  have isName : namesIn (firstSegment named).reverse = [(firstSegment named).reverse] := by
    refine namesIn_name (by rw [List.mem_reverse]; exact not_mem_firstSegment named) ?_
    rw [← Bool.not_eq_true, isBlankSegment_iff] at visible ⊢
    rwa [List.reverse_eq_nil_iff, List.reverse_eq_iff]
  rcases withoutName_cases named with ⟨nothing, isNamed⟩ | ⟨rest, isRest, isNamed⟩
  · rw [nothing, ← isName, isNamed]
    rfl
  · rw [isRest, namesIn_dropBlankEnd, ← isName, ← namesIn_append]
    conv_lhs => rw [← isNamed]
    rw [List.reverse_append, List.reverse_cons, List.append_assoc]
    rfl

theorem Leads.withoutName {lead named : List Char} (leads : Leads lead named.reverse) :
    Leads lead (withoutName named).reverse := by
  rcases withoutName_cases named with ⟨nothing, _⟩ | ⟨rest, isRest, isNamed⟩
  · rw [nothing]
    exact leads.nil
  · rw [← isNamed, List.reverse_append, List.reverse_cons, List.append_assoc] at leads
    rw [isRest]
    exact leads.cut.dropBlankEnd

theorem length_withoutName_lt {named : List Char} (nonempty : named ≠ []) :
    (withoutName named).length < named.length := by
  rcases withoutName_cases named with ⟨nothing, _⟩ | ⟨rest, isRest, isNamed⟩
  · rw [nothing]
    exact List.length_pos_of_ne_nil nonempty
  · have shorter := length_dropBlankEnd_le rest
    have lengths := congrArg List.length isNamed
    rw [List.length_append, List.length_cons] at lengths
    rw [isRest]
    omega

theorem parent?_eq (path : Path) :
    path.parent? =
      if dropBlankEnd path.body.reverse = [] then
        if path.lead = ['.'] then some ⟨""⟩ else none
      else some ⟨String.ofList
        (path.lead ++ (withoutName (dropBlankEnd path.body.reverse)).reverse)⟩ := by
  unfold parent? Path.lead Path.body withoutName
  cases splitLead path.text.toList with
  | mk lead body =>
    dsimp only
    cases dropBlankEnd body.reverse with
    | nil => rfl
    | cons c rest => rw [if_neg (List.cons_ne_nil c rest)]

/-- A path has no parent, or it is a dot and its parent is empty, or its parent starts as the path
does and has all its names but the last. -/
theorem parent?_cases (path : Path) :
    (path.names = [] ∧ path.lead ≠ ['.'] ∧ path.parent? = none) ∨
    (path.names = [] ∧ path.lead = ['.'] ∧ path.parent? = some ⟨""⟩) ∨
    (∃ parent name, path.parent? = some parent ∧ parent.lead = path.lead ∧
      path.names = parent.names ++ [name] ∧ parent.text.length < path.text.length) := by
  have sameNames : path.names = namesIn (dropBlankEnd path.body.reverse).reverse := by
    rw [namesIn_dropBlankEnd, List.reverse_reverse]
    rfl
  have leads : Leads path.lead (dropBlankEnd path.body.reverse).reverse :=
    Leads.dropBlankEnd (by rw [List.reverse_reverse]; exact path.leads_body)
  have isParent := path.parent?_eq
  have visible := firstSegment_dropBlankEnd path.body.reverse
  have shorter := length_dropBlankEnd_le path.body.reverse
  have lengths := congrArg List.length path.lead_append_body
  -- What is left without the blank end is nothing, or it ends with a name.
  generalize dropBlankEnd path.body.reverse = named at *
  cases named with
  | nil =>
    rw [if_pos rfl] at isParent
    by_cases isDot : path.lead = ['.']
    · exact .inr (.inl ⟨sameNames, isDot, isParent.trans (if_pos isDot)⟩)
    · exact .inl ⟨sameNames, isDot, isParent.trans (if_neg isDot)⟩
  | cons c rest =>
    rw [if_neg (List.cons_ne_nil c rest)] at isParent
    have parentForm := form_of_text leads.withoutName String.toList_ofList
    rw [form_eq, Prod.mk.injEq] at parentForm
    refine .inr (.inr ⟨_, (firstSegment (c :: rest)).reverse, isParent, parentForm.1, ?_, ?_⟩)
    · rw [sameNames, namesIn_withoutName (visible.resolve_left (List.cons_ne_nil c rest)),
        ← parentForm.2]
      rfl
    · have cut := length_withoutName_lt (List.cons_ne_nil c rest)
      simp only [List.length_append, List.length_reverse, String.length_toList] at lengths shorter
      simp only [String.length_ofList, List.length_append, List.length_reverse]
      omega

/-!
## Ancestors
-/

theorem length_parent?_lt {path parent : Path} (found : path.parent? = some parent) :
    parent.text.length < path.text.length := by
  rcases path.parent?_cases with
    ⟨_, _, none⟩ | ⟨_, isDot, empty⟩ | ⟨other, _, isOther, _, _, shorter⟩
  · rw [none] at found
    cases found
  · rw [empty] at found
    cases found
    have lengths := congrArg List.length path.lead_append_body
    rw [isDot, List.length_append, String.length_toList] at lengths
    exact lengths ▸ Nat.lt_of_lt_of_le Nat.zero_lt_one (Nat.le_add_right _ _)
  · rw [isOther] at found
    cases found
    exact shorter

/-- A climb of as many steps as a path has characters, or more, does not stop early. -/
theorem climb_eq_climb {first second : Nat} {path : Path} (enough : path.text.length < first)
    (alsoEnough : path.text.length < second) : climb first path = climb second path := by
  induction first generalizing second path with
  | zero => cases enough
  | succ count ih =>
    cases second with
    | zero => cases alsoEnough
    | succ other =>
      simp only [climb]
      cases found : path.parent? with
      | none => rfl
      | some parent =>
        have shorter := length_parent?_lt found
        have same : climb count parent = climb other parent := ih (by omega) (by omega)
        exact congrArg (path :: ·) same

theorem ancestors_eq (path : Path) :
    path.ancestors = path :: match path.parent? with
      | some parent => parent.ancestors
      | none => [] := by
  rw [ancestors, climb]
  cases found : path.parent? with
  | none => rfl
  | some parent =>
    have shorter := length_parent?_lt found
    have same : climb path.text.length parent = parent.ancestors :=
      climb_eq_climb shorter (Nat.lt_succ_self _)
    exact congrArg (path :: ·) same

/-- The forms of the ancestors of a path: what it starts with and the initial parts of its names,
the longest first. Above a dot is the empty path. -/
theorem map_form_ancestors (path : Path) :
    path.ancestors.map form =
      path.names.inits.reverse.map (path.lead, ·) ++
        if path.lead = ['.'] then [([], [])] else [] := by
  induction size : path.text.length using Nat.strong_induction_on generalizing path with
  | h size ih =>
    subst size
    rw [ancestors_eq, List.map_cons, form]
    rcases path.parent?_cases with
      ⟨noNames, notDot, none⟩ | ⟨noNames, isDot, empty⟩ |
        ⟨parent, name, isParent, sameLead, names, shorter⟩
    · rw [none, noNames, if_neg notDot]
      rfl
    · rw [empty, noNames, isDot]
      rfl
    · rw [isParent, names]
      simp [ih _ shorter parent rfl, sameLead, List.inits_append]

theorem nodup_inits {Item : Type} (items : List Item) : items.inits.Nodup := by
  induction items with
  | nil => exact List.nodup_singleton []
  | cons item rest ih =>
    rw [List.inits_cons, List.nodup_cons]
    exact ⟨by simp, List.Nodup.map List.cons_injective ih⟩

/-- No two ancestors of a path are the same path. -/
theorem nodup_forms_ancestors (path : Path) : (path.ancestors.map form).Nodup := by
  have apart : Function.Injective fun names : List (List Char) => (path.lead, names) :=
    fun _ _ same => (Prod.mk.inj same).2
  rw [map_form_ancestors]
  refine List.Nodup.append (List.Nodup.map apart (List.nodup_reverse.mpr (nodup_inits _))) ?_ ?_
  · split
    · exact List.nodup_singleton _
    · exact List.nodup_nil
  · split
    · rename_i isDot
      simp [isDot]
    · exact List.disjoint_nil_right _

theorem eq_of_mem_ancestors {path first second : Path} (member : first ∈ path.ancestors)
    (alsoMember : second ∈ path.ancestors) (same : first.sameAs second = true) : first = second :=
  List.inj_on_of_nodup_map path.nodup_forms_ancestors member alsoMember
    ((first.sameAs_iff second).mp same)

/-- The ancestors from one of them on are its own. -/
theorem ancestors_suffix {path ancestor : Path} {before after : List Path}
    (split : path.ancestors = before ++ ancestor :: after) :
    ancestor.ancestors = ancestor :: after := by
  induction before generalizing path with
  | nil =>
    have whole := split
    rw [ancestors_eq, List.nil_append, List.cons.injEq] at split
    rw [← split.1, whole, List.nil_append, split.1]
  | cons first before ih =>
    rw [ancestors_eq, List.cons_append, List.cons.injEq] at split
    cases found : path.parent? with
    | none =>
      rw [found] at split
      exact absurd split.2.symm (by simp)
    | some parent =>
      rw [found] at split
      exact ih split.2

/-!
## Joined paths
-/

theorem form_join (directory : Path) {name : String} (whole : '/' ∉ name.toList)
    (visible : isBlankSegment name.toList = false) :
    (directory.join name).form = (directory.lead, directory.names ++ [name.toList]) := by
  have leads := directory.leads_body
  have text := directory.lead_append_body
  have isName := namesIn_name whole visible
  have names : directory.names = namesIn directory.body := rfl
  unfold join
  split
  · rename_i empty
    rw [List.getLast?_eq_none_iff] at empty
    rw [empty, List.append_eq_nil_iff] at text
    have leadsName : Leads [] name.toList := by
      rw [← firstSegment_of_not_mem whole] at visible
      exact .none (.inr visible)
    rw [names, text.1, text.2, ← isName]
    exact form_of_text leadsName (by simp [empty])
  · rename_i slash
    rw [← text] at slash
    rcases List.eq_nil_or_concat' directory.body with noBody | ⟨before, last, body⟩
    · rw [noBody, List.append_nil] at slash text
      have isSlash : directory.lead = ['/'] := by
        rcases leads.lead_cases with same | same | same <;> rw [same] at slash ⊢ <;> cases slash
      rw [names, noBody, isSlash, ← isName]
      exact form_of_text (.slash _) (by simp [← text, isSlash])
    · rw [body, ← List.append_assoc, List.getLast?_concat, Option.some.injEq] at slash
      rw [body, slash] at leads text names
      rw [names, namesIn_slash, ← isName, ← namesIn_append]
      exact form_of_text (leads.behind name.toList) (by simp [← text])
  · rename_i c notSlash last
    have nonempty : directory.lead ++ directory.body ≠ [] := by
      intro empty
      rw [← text, empty] at last
      cases last
    rw [names, ← isName, ← namesIn_append]
    refine form_of_text (leads.extend nonempty name.toList) ?_
    simp [← text]

theorem sameAs_join_iff (first second : Path) {name : String} (whole : '/' ∉ name.toList)
    (visible : isBlankSegment name.toList = false) :
    (first.join name).sameAs (second.join name) = true ↔ first.sameAs second = true := by
  rw [sameAs_iff, sameAs_iff, form_join first whole visible, form_join second whole visible]
  simp [form]

/-- The parent of a joined path is the directory, up to slashes and dots that do not count. -/
theorem parent?_join (directory : Path) {name : String} (whole : '/' ∉ name.toList)
    (visible : isBlankSegment name.toList = false) :
    ∃ parent, (directory.join name).parent? = some parent ∧ parent.form = directory.form := by
  have joined := directory.form_join whole visible
  obtain ⟨lead, names⟩ := Prod.mk.inj joined
  rcases (directory.join name).parent?_cases with
    ⟨noNames, _, _⟩ | ⟨noNames, _, _⟩ | ⟨parent, last, isParent, sameLead, isNames, _⟩
  · rw [noNames] at names
    exact absurd names.symm (by simp)
  · rw [noNames] at names
    exact absurd names.symm (by simp)
  · refine ⟨parent, isParent, ?_⟩
    rw [isNames] at names
    rw [form, form, sameLead, lead, (List.append_inj' names rfl).1]

end Path

end SearchQuery
