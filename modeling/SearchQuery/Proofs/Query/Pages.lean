import SearchQuery.Proofs.Query.Rendering

/-!
# Pages of results

A compiled query asks for a window of the results: it begins behind the results of the pages before,
and is as wide as a page. The page and the width say nothing else about the query
(`value_compile_onPage`), so that turning the page moves the window and leaves the rest alone. Where
a window begins is computed without overflow, and as long as the windows stay within 64 bits they
tile the results: every rank stands on exactly one page (`pages_tile`).
-/

set_option autoImplicit false

namespace SearchQuery

namespace SearchRequest

def onPage (request : SearchRequest) (page size : UInt64) : SearchRequest :=
  { request with page, size }

theorem offset_onPage (request : SearchRequest) (page size : UInt64) :
    (request.onPage page size).offset.toNat =
      min ((max page.toNat 1 - 1) * size.toNat) (2 ^ 64 - 1) := by
  have pagesBefore : max page.toNat 1 - 1 = page.toNat - 1 := by omega
  rw [pagesBefore]
  exact toNat_offset (request.onPage page size)

/-- Neither what is looked for nor the filters depend on the page. -/
theorem value_compile_onPage {index : IndexName} {request : SearchRequest} {access : Access}
    {provider : String} {compiled : CompiledQuery}
    (compiles : (request.compile index access provider).value = .ok compiled)
    (page size : UInt64) :
    ((request.onPage page size).compile index access provider).value =
      .ok { compiled with size, offset := (request.onPage page size).offset } := by
  obtain ⟨name, textual, isKnown, part, rfl⟩ :=
    (value_compile_eq_ok_iff index request access provider compiled).mp compiles
  have partOnPage : TextualPart (request.onPage page size) textual := by
    cases part with
    | none isSentinel => exact .none isSentinel
    | terms hasText found => exact .terms hasText found
  apply (value_compile_eq_ok_iff index _ access provider _).mpr
  exact ⟨name, textual, isKnown, partOnPage, rfl⟩

/-!
## Windows
-/

theorem offset_onPage_mono (request : SearchRequest) {page later size larger : UInt64}
    (isLater : page ≤ later) (isLarger : size ≤ larger) :
    (request.onPage page size).offset ≤ (request.onPage later larger).offset := by
  have pagesBefore : max page.toNat 1 - 1 ≤ max later.toNat 1 - 1 := by
    have := UInt64.le_iff_toNat_le.mp isLater
    omega
  apply UInt64.le_iff_toNat_le.mpr
  rw [offset_onPage, offset_onPage]
  exact min_le_min_right _ (Nat.mul_le_mul pagesBefore (UInt64.le_iff_toNat_le.mp isLarger))

/-- Up to a page whose results can all be counted, nothing is cut off. -/
theorem offset_onPage_of_le (request : SearchRequest) {page lastPage size : UInt64}
    (isPage : 1 ≤ page) (isBefore : page ≤ lastPage)
    (bounded : lastPage.toNat * size.toNat ≤ 2 ^ 64 - 1) :
    (request.onPage page size).offset.toNat = (page.toNat - 1) * size.toNat := by
  have isPositive : 1 ≤ page.toNat := UInt64.le_iff_toNat_le.mp isPage
  have fewer : (page.toNat - 1) * size.toNat ≤ lastPage.toNat * size.toNat := by
    apply Nat.mul_le_mul_right
    have := UInt64.le_iff_toNat_le.mp isBefore
    omega
  rw [offset_onPage, max_eq_left isPositive]
  exact min_eq_left (Nat.le_trans fewer bounded)

theorem offset_onPage_succ (request : SearchRequest) {page size : UInt64} (isPage : 1 ≤ page)
    (bounded : page.toNat * size.toNat ≤ 2 ^ 64 - 1) (notLast : page.toNat < 2 ^ 64 - 1) :
    (request.onPage (page + 1) size).offset.toNat =
      (request.onPage page size).offset.toNat + size.toNat := by
  have isPositive : 1 ≤ page.toNat := UInt64.le_iff_toNat_le.mp isPage
  have next : (page + 1).toNat = page.toNat + 1 := by
    rw [UInt64.toNat_add, UInt64.toNat_one]
    exact Nat.mod_eq_of_lt (by omega)
  have widened : page.toNat * size.toNat = (page.toNat - 1) * size.toNat + size.toNat := by
    rw [← Nat.succ_mul, Nat.succ_eq_add_one, Nat.sub_add_cancel isPositive]
  calc (request.onPage (page + 1) size).offset.toNat
      = min ((max (page.toNat + 1) 1 - 1) * size.toNat) (2 ^ 64 - 1) := by
        rw [offset_onPage, next]
    _ = page.toNat * size.toNat := by
        rw [max_eq_left (by omega), Nat.add_sub_cancel]
        exact min_eq_left bounded
    _ = (request.onPage page size).offset.toNat + size.toNat := by
        rw [widened, request.offset_onPage_of_le isPage (UInt64.le_refl page) bounded]

/-- A rank, counted from zero, stands on a page. -/
def Shows (request : SearchRequest) (page size : UInt64) (rank : Nat) : Prop :=
  (request.onPage page size).offset.toNat ≤ rank ∧
    rank < (request.onPage page size).offset.toNat + size.toNat

/-- Every rank up to the end of the last page stands on one page, that of the quotient. -/
theorem existsUnique_shows (request : SearchRequest) {lastPage size : UInt64}
    (bounded : lastPage.toNat * size.toNat ≤ 2 ^ 64 - 1) {rank : Nat}
    (isShown : rank < lastPage.toNat * size.toNat) :
    ∃! page, (1 ≤ page ∧ page ≤ lastPage) ∧ request.Shows page size rank := by
  have wide : 0 < size.toNat := Nat.pos_of_mul_pos_left (Nat.zero_lt_of_lt isShown)
  have fewer : rank / size.toNat < lastPage.toNat :=
    Nat.div_lt_of_lt_mul (Nat.mul_comm _ _ ▸ isShown)
  -- A page shows a rank when the quotient is the number of the pages before it.
  have shows_iff {page : UInt64} (isPage : 1 ≤ page) (isBefore : page ≤ lastPage) :
      request.Shows page size rank ↔ rank / size.toNat = page.toNat - 1 := by
    rw [Shows, request.offset_onPage_of_le isPage isBefore bounded, Nat.div_eq_iff wide]
    omega
  have fits : rank / size.toNat + 1 < UInt64.size :=
    Nat.lt_of_le_of_lt fewer lastPage.toNat_lt_size
  have isNumber : (UInt64.ofNat (rank / size.toNat + 1)).toNat = rank / size.toNat + 1 :=
    UInt64.toNat_ofNat_of_lt fits
  have isPage : 1 ≤ UInt64.ofNat (rank / size.toNat + 1) := by
    apply UInt64.le_iff_toNat_le.mpr
    rw [isNumber, UInt64.toNat_one]
    exact Nat.le_add_left 1 _
  have isBefore : UInt64.ofNat (rank / size.toNat + 1) ≤ lastPage := by
    apply UInt64.le_iff_toNat_le.mpr
    rw [isNumber]
    exact fewer
  refine ⟨UInt64.ofNat (rank / size.toNat + 1), ⟨⟨isPage, isBefore⟩, ?_⟩, ?_⟩
  · apply (shows_iff isPage isBefore).mpr
    rw [isNumber, Nat.add_sub_cancel]
  · rintro page ⟨⟨alsoPage, alsoBefore⟩, shows⟩
    have quotient := (shows_iff alsoPage alsoBefore).mp shows
    have isPositive : 1 ≤ page.toNat := UInt64.le_iff_toNat_le.mp alsoPage
    apply UInt64.toNat_inj.mp
    rw [isNumber]
    omega

end SearchRequest

/-!
## Printed windows
-/

/-- A text holds an object that has a number under a key, written in decimal digits. -/
def ShowsNumber (text key : String) (n : Nat) : Prop :=
  ∃ document numeral, Json.value? text.toList = some document ∧
    Json.at? [key] document = some (.number numeral) ∧ numeral.chars = Nat.toDigits 10 n

theorem CompiledQuery.showsNumber_printed (compiled : CompiledQuery) (compact : Bool) :
    ShowsNumber (Command.printed false compact compiled.toJson) "size" compiled.size.toNat ∧
    ShowsNumber (Command.printed false compact compiled.toJson) "from" compiled.offset.toNat := by
  have isRead := Command.value?_printed compiled.isWellSpelled_toJson compact
  have digits (n : Nat) : (Numeral.ofNat n).chars = Nat.toDigits 10 n := by
    simp [Numeral.ofNat, Numeral.chars]
  exact ⟨⟨_, _, isRead, rfl, digits _⟩, ⟨_, _, isRead, rfl, digits _⟩⟩

/-- The windows of the pages, by the number and the width of a page, tile the results: they begin
behind the pages before, or at the greatest word if these hold too many results, and each of them
ends where the next one begins as long as the ends are words. -/
structure Tiling (window : UInt64 → UInt64 → CompiledQuery) : Prop where
  size : ∀ page size, (window page size).size = size
  offset : ∀ page size, (window page size).offset.toNat =
    min ((max page.toNat 1 - 1) * size.toNat) (2 ^ 64 - 1)
  later : ∀ {page later size larger}, page ≤ later → size ≤ larger →
    (window page size).offset ≤ (window later larger).offset
  pageZero : ∀ size, window 0 size = window 1 size
  next : ∀ page size, 1 ≤ page → page.toNat * size.toNat ≤ 2 ^ 64 - 1 → page.toNat < 2 ^ 64 - 1 →
    (window (page + 1) size).offset.toNat =
      (window page size).offset.toNat + (window page size).size.toNat
  /-- No result up to the end of a page is shown twice or passed over. -/
  once : ∀ lastPage size, lastPage.toNat * size.toNat ≤ 2 ^ 64 - 1 →
    ∀ rank < lastPage.toNat * size.toNat, ∃! page, (1 ≤ page ∧ page ≤ lastPage) ∧
      (window page size).offset.toNat ≤ rank ∧
      rank < (window page size).offset.toNat + (window page size).size.toNat
  printed : ∀ page size compact,
    let text := Command.printed false compact (window page size).toJson
    ShowsNumber text "size" size.toNat ∧
      ShowsNumber text "from" (window page size).offset.toNat

namespace SearchRequest

theorem tiling_onPage (request : SearchRequest) (compiled : CompiledQuery) :
    Tiling fun page size =>
      { compiled with size, offset := (request.onPage page size).offset } where
  size _ _ := rfl
  offset := request.offset_onPage
  later := request.offset_onPage_mono
  pageZero size := by
    have sameOffset : (request.onPage 0 size).offset = (request.onPage 1 size).offset := rfl
    rw [sameOffset]
  next _ _ := request.offset_onPage_succ
  once _ _ bounded _ := request.existsUnique_shows bounded
  printed _ _ := CompiledQuery.showsNumber_printed _

/-- A request that compiles does so on every page, and the windows of its pages tile the results. -/
theorem pages_tile (index : IndexName) (request : SearchRequest) (access : Access)
    (provider : String) (compiled : CompiledQuery)
    (compiles : (request.compile index access provider).value = .ok compiled) :
    ∃ window : UInt64 → UInt64 → CompiledQuery,
      (∀ page size, ((request.onPage page size).compile index access provider).value =
        .ok (window page size)) ∧
      window request.page request.size = compiled ∧ Tiling window := by
  have compilesOn := value_compile_onPage compiles
  have samePage := Except.ok.inj ((compilesOn request.page request.size).symm.trans compiles)
  exact ⟨_, compilesOn, samePage, request.tiling_onPage compiled⟩

/-- The last page that 64 bits can count, of the greatest width that is not cut off there. -/
theorem pages_tile_last_page :
    let request : SearchRequest := { page := 4294967295, size := 4294967296 }
    ∃ compiled, (request.compile (.known "docs") { viewer := "ann" } "files").value =
        .ok compiled ∧
      compiled.offset = 18446744065119617024 ∧
      ∃ window : UInt64 → UInt64 → CompiledQuery,
        (∀ page size, ((request.onPage page size).compile (.known "docs") { viewer := "ann" }
          "files").value = .ok (window page size)) ∧
        window request.page request.size = compiled ∧ Tiling window := by
  intro request
  have compiles := (value_compile_eq_ok_iff (.known "docs") request { viewer := "ann" } "files"
    _).mpr ⟨"docs", _, rfl, .none rfl, rfl⟩
  exact ⟨_, compiles, by decide, pages_tile _ request _ _ _ compiles⟩

end SearchRequest

end SearchQuery
