import SearchQuery.Proofs.Command.Search
import SearchQuery.Proofs.Request.Reading
import SearchQuery.Proofs.Settings.Loading

/-!
# Options in layers

Options may be given in several steps, each on top of the request that the steps before have built.
That is the same as giving them all at once, in order (`build_build`): what stands alone is replaced
and lists go on. So a request that has been built may be saved and taken up again. A run that is
given the file, and no options for the request, does what the run did that built it
(`layers_compose`).
-/

set_option autoImplicit false

namespace SearchQuery.Command

namespace RequestOptions

/-- The options of two commands, one after the other. Words and numbers of the second replace those
of the first, lists are put behind one another. -/
def followedBy (first second : RequestOptions) : RequestOptions where
  words := if second.words = [] then first.words else second.words
  page := second.page.or first.page
  size := second.size.or first.size
  fields := first.fields ++ second.fields
  limitFields := first.limitFields ++ second.limitFields
  wildcardFields := first.wildcardFields ++ second.wildcardFields
  parts := first.parts ++ second.parts
  metaTags := first.metaTags ++ second.metaTags
  subTags := first.subTags ++ second.subTags
  wildcardFilters := first.wildcardFilters ++ second.wildcardFilters
  regexFilters := first.regexFilters ++ second.regexFilters

theorem search_applyTo_applyTo (first second : RequestOptions) (request : SearchRequest) :
    (second.applyTo (first.applyTo request)).search =
      ((first.followedBy second).applyTo request).search := by
  unfold applyTo followedBy
  by_cases noWords : second.words = []
  · simp only [noWords, if_true]
  · simp only [noWords, if_false]

theorem applyTo_applyTo (first second : RequestOptions) (request : SearchRequest) :
    second.applyTo (first.applyTo request) = (first.followedBy second).applyTo request := by
  have search := search_applyTo_applyTo first second request
  have page : second.page.getD (first.page.getD request.page) =
      (second.page.or first.page).getD request.page := by
    cases second.page <;> rfl
  have size : second.size.getD (first.size.getD request.size) =
      (second.size.or first.size).getD request.size := by
    cases second.size <;> rfl
  unfold applyTo followedBy at search ⊢
  simp only [SearchRequest.mk.injEq]
  refine ⟨search, page, size, ?_⟩
  simp only [List.append_assoc, List.map_append, and_self]

theorem build_build (base : Option SearchRequest) (first second : RequestOptions)
    (pageSize other : UInt64) :
    build (some (build base first pageSize)) second other =
      build base (first.followedBy second) pageSize :=
  applyTo_applyTo first second _

/-- Options that say nothing leave a request as it is. -/
theorem applyTo_nothing (request : SearchRequest) : applyTo {} request = request := by
  simp only [applyTo, if_true, Option.getD_none, List.append_nil, List.map_nil]

end RequestOptions

/-- A request is saved as JSON, on one line or over several, to a file that is not looked at for
settings. -/
structure Saves (place : Surroundings) (request : SearchRequest) (path : Path)
    (files : FileTree) : Prop where
  written : ∃ layout, place.files.write place.cwd path
    (String.ofList (Json.chars layout request.toJson)) = .ok files
  apart : ∀ met ∈ place.cwd.ancestors.map (·.join configFileName) ++ place.userFile?.toList,
    place.files.locate place.cwd met ≠ place.files.locate place.cwd path

section

variable {place : Surroundings} {request : SearchRequest} {path : Path} {files : FileTree}

theorem Saves.load_eq (saves : Saves place request path files) :
    ({ place with files }).load place.cwd = place.load place.cwd := by
  obtain ⟨layout, written⟩ := saves.written
  exact Surroundings.load_of_write_apart written saves.apart

theorem Saves.fileRequest_eq (saves : Saves place request path files) :
    fileRequest { place with files } (some path) = .ok (some request) := by
  obtain ⟨layout, written⟩ := saves.written
  have isRead := FileTree.read_of_write written
  have isRequest := request.readBack.fromText layout
  rw [fileRequest, readRequest]
  dsimp only
  rw [isRead]
  dsimp only
  rw [isRequest]
  rfl

/-- The file answers like the options that the request in it has been built from. -/
theorem Saves.answer_eq {options : SearchOptions} {settings : Settings}
    (saves : Saves place request path files) (noFile : options.requestFile = none)
    (isBuilt : request = RequestOptions.build none options.request settings.pageSize)
    (terminal : Bool) :
    ({ options with requestFile := some path, request := {} } : SearchOptions).answer
        { place with files } terminal settings =
      options.answer place terminal settings := by
  have sameRequest : RequestOptions.build (some request) {} settings.pageSize =
      RequestOptions.build none options.request settings.pageSize :=
    (RequestOptions.applyTo_nothing request).trans isBuilt
  rw [SearchOptions.answer, SearchOptions.answer, saves.fileRequest_eq, noFile, fileRequest]
  dsimp only
  rw [sameRequest]

end

/-- What is seen of a run: what it prints and logs, and how it fails. -/
structure SameSeen (first second : Outcome) : Prop where
  output : second.output = first.output
  failure : second.failure = first.failure
  log : second.log = first.log

/-- Options layer over a request. Options on top of a request that other options have built are
those options one after the other, whatever the other ones were built on. So if a search without a
file with a request is run again, with the request it has built saved to a file, with this file and
without options for the request, the same is seen: the same query, or the same failure. -/
theorem layers_compose :
    (∀ base first second pageSize other,
      RequestOptions.build (some (RequestOptions.build base first pageSize)) second other =
        RequestOptions.build base (first.followedBy second) pageSize) ∧
    ∀ (session : Session) (verbosity : Nat) (options : SearchOptions) (request : SearchRequest)
      (path : Path) (files : FileTree),
      options.requestFile = none →
      (∀ settings, session.load session.cwd = .ok settings →
        request = RequestOptions.build none options.request settings.pageSize) →
      Saves session.toSurroundings request path files →
      SameSeen (Invocation.run session ⟨verbosity, .inquire (.compile options)⟩)
        (Invocation.run { session with files } ⟨verbosity, .inquire (.compile
          { options with requestFile := some path, request := {} })⟩) := by
  refine ⟨RequestOptions.build_build, ?_⟩
  intro session verbosity options request path files noFile isBuilt saves
  have sameSettings : ({ session with files } : Session).load session.cwd =
      session.load session.cwd :=
    saves.load_eq
  rw [run_inquire, run_inquire]
  unfold Invocation.inquire
  rw [sameSettings]
  cases loaded : session.load session.cwd with
  | error error => exact ⟨rfl, rfl, rfl⟩
  | ok settings =>
    have sameAnswer := saves.answer_eq noFile (isBuilt settings loaded) session.terminal
    dsimp only [Inquiry.answer]
    rw [sameAnswer]
    exact ⟨rfl, rfl, rfl⟩

/-- The second page for a word, with tags and a filter, is saved and taken up again. -/
theorem layers_compose_second_page :
    let options : SearchOptions :=
      { provider := "files"
        access := { viewer := "ann", groups := ["staff"] }
        request :=
          { words := ["+plan"]
            page := some 2
            metaTags := ["inbox"]
            wildcardFilters := [⟨"name", "*.pdf"⟩] } }
    let request := RequestOptions.build none options.request 20
    let files := indexedPlace.files.set ["work", "page.json"] (.file (.text request.toJson.compact))
    let first := Invocation.run indexedPlace ⟨0, .inquire (.compile options)⟩
    options.requestFile = none ∧
    (∀ settings, indexedPlace.load indexedPlace.cwd = .ok settings →
      request = RequestOptions.build none options.request settings.pageSize) ∧
    Saves indexedPlace.toSurroundings request ⟨"page.json"⟩ files ∧
    first.failure = none ∧
    SameSeen first (Invocation.run { indexedPlace with files } ⟨0, .inquire (.compile
      { options with requestFile := some ⟨"page.json"⟩, request := {} })⟩) := by
  intro options request files first
  have isBuilt (settings : Settings) (loaded : indexedPlace.load indexedPlace.cwd = .ok settings) :
      request = RequestOptions.build none options.request settings.pageSize := by
    have isLoaded : indexedPlace.load indexedPlace.cwd =
        .ok { indexName := some "docs", root := some ⟨"/work"⟩ } := by
      decide +kernel
    cases isLoaded.symm.trans loaded
    rfl
  have saves : Saves indexedPlace.toSurroundings request ⟨"page.json"⟩ files :=
    ⟨⟨.compact, by decide +kernel⟩, by decide +kernel⟩
  exact ⟨rfl, isBuilt, saves, by decide +kernel,
    layers_compose.2 indexedPlace 0 options request ⟨"page.json"⟩ files rfl isBuilt saves⟩

end SearchQuery.Command
