import SearchQuery.Text.Slice

/-!
# Parts of a text by byte offsets

A part that is taken out of a text is made up of whole characters: it is what stands between one part
of the text and another, and the offsets are where these end and start (`slice?_eq_some_iff`).
-/

set_option autoImplicit false

namespace SearchQuery.Text

theorem pos?_eq_some_iff {text : String} {offset : Nat} (pos : text.Pos) :
    text.pos? ⟨offset⟩ = some pos ↔ pos.offset.byteIdx = offset := by
  rw [String.pos?, String.Slice.pos?]
  constructor
  · intro found
    split at found
    · cases found
      rfl
    · cases found
  · intro same
    subst same
    rw [dif_pos (String.Pos.Raw.isValidForSlice_eq_true_iff.mpr pos.isValid.toSlice)]
    rfl

theorem slice?_eq_some_iff (text part : String) (start stop : Nat) :
    slice? text start stop = some part ↔
      ∃ before after, text = before ++ part ++ after ∧ start = before.utf8ByteSize ∧
        stop = (before ++ part).utf8ByteSize := by
  simp only [slice?, Option.bind_eq_bind, Option.bind_eq_some_iff, pos?_eq_some_iff]
  constructor
  · rintro ⟨first, rfl, last, rfl, piece, cut, copied⟩
    unfold String.slice? at cut
    split at cut
    · rename_i ordered
      cases cut
      cases copied
      obtain ⟨before, after, atStart, atStop⟩ :=
        String.copy_slice_eq_iff_splits.mp ⟨ordered, rfl⟩
      refine ⟨before, after, atStop.eq_append, ?_, ?_⟩
      · rw [atStart.offset_eq_rawEndPos, String.byteIdx_rawEndPos]
      · rw [atStop.offset_eq_rawEndPos, String.byteIdx_rawEndPos]
    · cases cut
  · rintro ⟨before, after, whole, rfl, rfl⟩
    have fromStart : text = before ++ (part ++ after) := by rw [whole, String.append_assoc]
    have atStart := String.Pos.splits_ofEqAppend fromStart
    have atStop := String.Pos.splits_ofEqAppend whole
    obtain ⟨ordered, copied⟩ := String.copy_slice_eq_iff_splits.mpr ⟨before, after, atStart, atStop⟩
    refine ⟨_, ?_, _, ?_, _, dif_pos ordered, congrArg some copied⟩
    · rw [atStart.offset_eq_rawEndPos, String.byteIdx_rawEndPos]
    · rw [atStop.offset_eq_rawEndPos, String.byteIdx_rawEndPos]

/-- An offset inside a character is no boundary. -/
example : slice? "é" 1 2 = none := by
  decide +kernel

theorem utf8ByteSize_ofList_cons (c : Char) (rest : List Char) :
    (String.ofList (c :: rest)).utf8ByteSize =
      c.utf8Size + (String.ofList rest).utf8ByteSize := by
  rw [String.ofList_cons, String.utf8ByteSize_append, String.utf8ByteSize_singleton]

end SearchQuery.Text
