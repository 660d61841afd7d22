import SearchQuery.Proofs.Files.Path
import SearchQuery.Files.Tree

/-!
# Where paths lead

A file tree decides whether a path leads anywhere, but not where: if it does, then to the location
that its names spell (`locate_eq_ok`). So paths that are the same lead to one location
(`location_unique`).
-/

set_option autoImplicit false

namespace SearchQuery

namespace Path

theorem namesIn_text (path : Path) : namesIn path.text.toList = path.names := by
  have leads := path.leads_body
  have text := path.lead_append_body
  have names : path.names = namesIn path.body := rfl
  rw [names, ← text]
  cases isLead : path.lead with
  | nil => rfl
  | cons c rest =>
    rw [isLead] at leads
    cases leads with
    | slash => exact namesIn_append [] path.body
    | dot ends =>
      obtain noBody | ⟨rest, isBody⟩ := (firstSegment_eq_nil_iff path.body).mp ends
      · rw [noBody]
        rfl
      · rw [isBody]
        exact (namesIn_append ['.'] rest).trans (namesIn_append [] rest).symm

theorem lead_eq_of_sameAs {first second : Path} (same : first.sameAs second = true) :
    first.lead = second.lead :=
  (Prod.mk.inj ((first.sameAs_iff second).mp same)).1

theorem names_eq_of_sameAs {first second : Path} (same : first.sameAs second = true) :
    first.names = second.names :=
  (Prod.mk.inj ((first.sameAs_iff second).mp same)).2

end Path

namespace Location

/-- One name further: two dots lead up. -/
def enter (here : Location) (name : List Char) : Location :=
  if String.ofList name = ".." then here.dropLast else here ++ [String.ofList name]

def walk (here : Location) (names : List (List Char)) : Location :=
  names.foldl enter here

end Location

namespace Path

/-- The location that the names of a path spell. -/
def destination (cwd path : Path) : Location :=
  Location.walk (if path.isAbsolute then [] else Location.walk [] cwd.names) path.names

theorem destination_eq_of_sameAs (cwd : Path) {first second : Path}
    (same : first.sameAs second = true) : destination cwd first = destination cwd second := by
  have lead : (splitLead first.text.toList).1 = (splitLead second.text.toList).1 :=
    lead_eq_of_sameAs same
  rw [destination, destination, isAbsolute, isAbsolute, lead, names_eq_of_sameAs same]

end Path

namespace FileTree

variable {tree : FileTree}

theorem follow_eq_ok {here there : Location} {segments : List (List Char)}
    (found : tree.follow here segments = .ok there) :
    there = Location.walk here (segments.filter (!Path.isBlankSegment ·)) := by
  induction segments generalizing here with
  | nil =>
    cases found
    rfl
  | cons segment rest ih =>
    unfold follow at found
    split at found
    · cases found
    · cases found
    · dsimp only at found
      split_ifs at found with blank up long
      · rw [List.filter_cons_of_neg (by simp [blank])]
        exact ih found
      · rw [List.filter_cons_of_pos (by simp [blank]), Location.walk, List.foldl_cons,
          Location.enter, if_pos up]
        exact ih found
      · rw [List.filter_cons_of_pos (by simp [blank]), Location.walk, List.foldl_cons,
          Location.enter, if_neg up]
        exact ih found

theorem locate_eq_ok {cwd path : Path} {location : Location}
    (found : tree.locate cwd path = .ok location) : location = Path.destination cwd path := by
  have walked {here there : Location} {path : Path}
      (reached : tree.follow here (Path.segments path.text.toList) = .ok there) :
      there = Location.walk here path.names :=
    path.namesIn_text ▸ follow_eq_ok reached
  unfold locate at found
  unfold Path.destination
  split_ifs at found with nul empty long absolute
  · rw [if_pos absolute]
    exact walked found
  · rw [if_neg absolute]
    cases start : tree.follow [] (Path.segments cwd.text.toList) with
    | error error =>
      rw [start] at found
      cases found
    | ok here =>
      rw [start] at found
      cases walked start
      exact walked found

theorem location_unique {cwd first second : Path} {location other : Location}
    (same : first.sameAs second = true) (found : tree.locate cwd first = .ok location)
    (alsoFound : tree.locate cwd second = .ok other) : location = other := by
  cases locate_eq_ok found
  cases locate_eq_ok alsoFound
  exact Path.destination_eq_of_sameAs cwd same

end FileTree

end SearchQuery
