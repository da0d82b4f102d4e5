import Mathlib.Order.Bounds.Defs
import Mathlib.Order.Monotone.Defs
import Mathlib.Order.Nat
import SheetEditor.Text.Basic

/-!
Contract: offsets in characters and offsets into the UTF-8 encoding are in step.

Owns: where the parts of a text lie in its encoding, that the two conversions are adjoint, and that
what is cut or replaced by characters is cut or replaced in the encoding.

The encoding is that of the core library, and so are the positions in it at which a character begins
or the text ends.
-/

namespace SheetEditor.Text

variable {text : Text} {index offset : Nat}

/-! ## Parts of a text -/

theorem byteLength_append (text rest : Text) :
    (text ++ rest).byteLength = text.byteLength + rest.byteLength := by
  induction text with
  | nil => rw [List.nil_append, byteLength, Nat.zero_add]
  | cons first text inductionHypothesis =>
      rw [List.cons_append, byteLength, byteLength, inductionHypothesis, Nat.add_assoc]

/-- The offset of a character is the length of what stands before it. -/
theorem byteOffset_eq_byteLength_take (text : Text) (index : Nat) :
    text.byteOffset index = byteLength (text.take index) := by
  induction text generalizing index with
  | nil => rw [List.take_nil, byteOffset, byteLength]
  | cons first rest inductionHypothesis =>
      cases index with
      | zero => rfl
      | succ index => rw [byteOffset, List.take_succ_cons, byteLength, inductionHypothesis]

/-- The offset of what follows a text is the length of that text. -/
theorem byteOffset_append (text rest : Text) :
    (text ++ rest).byteOffset text.length = text.byteLength := by
  rw [byteOffset_eq_byteLength_take, List.take_left]

/-- The characters in front of the offset at which a text ends are those of the text. -/
theorem characterIndex_append (text rest : Text) :
    (text ++ rest).characterIndex text.byteLength = text.length := by
  induction text with
  | nil =>
      cases rest with
      | nil => rfl
      | cons first rest => exact if_pos (Char.utf8Size_pos first)
  | cons first text inductionHypothesis =>
      rw [List.cons_append, characterIndex, byteLength, if_neg (by omega), Nat.add_sub_cancel_left,
        inductionHypothesis, List.length_cons]

/-- From bytes back to characters, where a part of a text begins and ends. -/
theorem characterIndex_around (before middle after : Text) :
    (before ++ (middle ++ after)).characterIndex before.byteLength = before.length ∧
      (before ++ (middle ++ after)).characterIndex (before ++ middle).byteLength =
        before.length + middle.length := by
  have atStop := characterIndex_append (before ++ middle) after
  rw [List.length_append, List.append_assoc] at atStop
  exact ⟨characterIndex_append before (middle ++ after), atStop⟩

/-- Where a part of a text begins and ends in bytes. -/
theorem byteOffset_around (before middle after : Text) :
    (before ++ (middle ++ after)).byteOffset before.length = before.byteLength ∧
      (before ++ (middle ++ after)).byteOffset (before.length + middle.length) =
        (before ++ middle).byteLength := by
  have atStop := byteOffset_append (before ++ middle) after
  rw [List.length_append, List.append_assoc] at atStop
  exact ⟨byteOffset_append before (middle ++ after), atStop⟩

/-! ## The adjunction -/

theorem characterIndex_le (text : Text) (offset : Nat) :
    text.characterIndex offset ≤ text.length := by
  induction text generalizing offset with
  | nil => exact Nat.zero_le _
  | cons first rest inductionHypothesis =>
      rw [characterIndex, List.length_cons]
      split
      · exact Nat.zero_le _
      · exact Nat.succ_le_succ (inductionHypothesis _)

/-- A character begins at or before an offset in bytes exactly if all the characters before it are
whole characters before that offset. Past the end, where the offsets of characters stop growing, only
one direction would hold. -/
theorem byteOffset_le_iff (inside : index ≤ text.length) :
    text.byteOffset index ≤ offset ↔ index ≤ text.characterIndex offset := by
  induction text generalizing index offset with
  | nil =>
      rw [Nat.le_zero.mp inside]
      exact iff_of_true (Nat.zero_le _) (Nat.zero_le _)
  | cons first rest inductionHypothesis =>
      cases index with
      | zero => exact iff_of_true (Nat.zero_le _) (Nat.zero_le _)
      | succ index =>
          rw [byteOffset, characterIndex]
          split
          -- The first character is not whole before the offset.
          · omega
          · have tail : byteOffset rest index ≤ offset - first.utf8Size ↔
                index ≤ characterIndex rest (offset - first.utf8Size) :=
              inductionHypothesis (Nat.le_of_succ_le_succ inside)
            omega

/-- An offset in characters is read back, clamped to the text. -/
theorem characterIndex_byteOffset (text : Text) (index : Nat) :
    text.characterIndex (text.byteOffset index) = min index text.length := by
  have atIndex := characterIndex_append (text.take index) (text.drop index)
  rwa [List.take_append_drop, List.length_take, ← byteOffset_eq_byteLength_take] at atIndex

/-- Rounding down never goes beyond the offset it starts from. -/
theorem byteOffset_characterIndex_le (text : Text) (offset : Nat) :
    text.byteOffset (text.characterIndex offset) ≤ offset :=
  (byteOffset_le_iff (text.characterIndex_le offset)).mpr le_rfl

theorem byteOffset_le (text : Text) (index : Nat) : text.byteOffset index ≤ text.byteLength := by
  have parts := byteLength_append (text.take index) (text.drop index)
  rw [List.take_append_drop, ← byteOffset_eq_byteLength_take] at parts
  omega

/-- An offset in characters and its clamping to the text have the same offset in bytes. -/
theorem byteOffset_min (text : Text) (index : Nat) :
    text.byteOffset (min index text.length) = text.byteOffset index := by
  rw [byteOffset_eq_byteLength_take, byteOffset_eq_byteLength_take, ← List.take_eq_take_min]

theorem monotone_characterIndex (text : Text) : Monotone text.characterIndex := by
  intro offset later before
  apply (byteOffset_le_iff (text.characterIndex_le offset)).mp
  exact (text.byteOffset_characterIndex_le offset).trans before

theorem monotone_byteOffset (text : Text) : Monotone text.byteOffset := by
  intro index later before
  rw [← byteOffset_min text index]
  apply (byteOffset_le_iff (Nat.min_le_right _ _)).mpr
  rw [characterIndex_byteOffset]
  omega

/-! ## The encoding -/

theorem size_utf8Encode (text : Text) : text.utf8Encode.size = text.byteLength := by
  induction text with
  | nil => rfl
  | cons first rest inductionHypothesis =>
      rw [List.utf8Encode_cons, ByteArray.size_append, inductionHypothesis, byteLength,
        List.utf8Encode_singleton, List.size_toByteArray, String.length_utf8EncodeChar]

/-- A character begins at the offset, or the text ends there. -/
def IsBoundary (text : Text) (offset : Nat) : Prop :=
  String.Pos.Raw.IsValid (String.ofList text) ⟨offset⟩

/-- The boundaries are the offsets of the characters, and that of the end. -/
theorem isBoundary_iff : text.IsBoundary offset ↔ ∃ index, offset = text.byteOffset index := by
  have sizeEq (part : Text) : (String.ofList part).utf8ByteSize = part.byteLength := by
    rw [← size_utf8Encode, ← String.toByteArray_ofList]
    rfl
  unfold IsBoundary
  rw [String.Pos.Raw.isValid_ofList]
  simp only [sizeEq, byteOffset_eq_byteLength_take]

/-- To characters and back rounds an offset down to a boundary. -/
theorem isGreatest_byteOffset_characterIndex (text : Text) (offset : Nat) :
    IsGreatest {boundary | text.IsBoundary boundary ∧ boundary ≤ min offset text.utf8Encode.size}
      (text.byteOffset (text.characterIndex offset)) := by
  rw [size_utf8Encode]
  constructor
  · refine ⟨isBoundary_iff.mpr ⟨_, rfl⟩, ?_⟩
    exact le_min (text.byteOffset_characterIndex_le offset) (text.byteOffset_le _)
  · rintro boundary ⟨isBoundary, before⟩
    obtain ⟨index, rfl⟩ := isBoundary_iff.mp isBoundary
    -- The adjunction is about characters of the text, or its end.
    rw [← byteOffset_min text index] at before ⊢
    apply text.monotone_byteOffset
    exact (byteOffset_le_iff (Nat.min_le_right _ _)).mp (before.trans (Nat.min_le_left _ _))

/-- A part of a text is encoded between the offsets at which it begins and ends. -/
theorem extract_utf8Encode (before middle after : Text) :
    (before ++ (middle ++ after)).utf8Encode.extract before.byteLength
      (byteLength (before ++ middle)) = middle.utf8Encode := by
  have behind := ByteArray.extract_append_size_add (a := before.utf8Encode)
    (b := (middle ++ after).utf8Encode) (i := 0) (j := middle.utf8Encode.size)
  rw [Nat.add_zero] at behind
  rw [byteLength_append, ← size_utf8Encode before, ← size_utf8Encode middle,
    List.utf8Encode_append, behind, List.utf8Encode_append, ByteArray.extract_append_eq_left rfl]

/-! ## Cuts and replacements -/

/-- The characters up to an offset are encoded by the bytes up to its offset. -/
theorem utf8Encode_take (text : Text) (index : Nat) :
    (text.take index).utf8Encode = text.utf8Encode.extract 0 (text.byteOffset index) := by
  have cut := extract_utf8Encode [] (text.take index) (text.drop index)
  rw [List.nil_append, List.nil_append, List.take_append_drop] at cut
  rw [byteOffset_eq_byteLength_take]
  exact cut.symm

theorem utf8Encode_drop (text : Text) (index : Nat) :
    (text.drop index).utf8Encode =
      text.utf8Encode.extract (text.byteOffset index) text.utf8Encode.size := by
  have cut := extract_utf8Encode (text.take index) (text.drop index) []
  rw [List.append_nil, List.take_append_drop] at cut
  rw [byteOffset_eq_byteLength_take, size_utf8Encode]
  exact cut.symm

/-- A slice follows on what stands before it. -/
theorem take_append_slice (text : Text) (start stop : Nat) :
    text.take start ++ text.slice start stop = text.take (max start stop) := by
  have stopEq : start + (stop - start) = max start stop := by omega
  rw [slice, ← List.take_add, stopEq]

/-- A slice is cut out of the encoding at the offsets of its ends. -/
theorem utf8Encode_slice (text : Text) (start stop : Nat) :
    (text.slice start stop).utf8Encode =
      text.utf8Encode.extract (text.byteOffset start) (text.byteOffset (max start stop)) := by
  have cut := extract_utf8Encode (text.take start) (text.slice start stop)
    (text.drop (max start stop))
  rw [← List.append_assoc, take_append_slice, List.take_append_drop,
    ← byteOffset_eq_byteLength_take, ← byteOffset_eq_byteLength_take] at cut
  exact cut.symm

/-- A replacement is made in the encoding at the offsets of the ends of what it replaces. -/
theorem utf8Encode_splice (text : Text) (start stop : Nat) (inserted : Text) :
    (text.splice start stop inserted).utf8Encode =
      text.utf8Encode.extract 0 (text.byteOffset start) ++ inserted.utf8Encode ++
        text.utf8Encode.extract (text.byteOffset (max start stop)) text.utf8Encode.size := by
  rw [splice, List.utf8Encode_append, List.utf8Encode_append, utf8Encode_take, utf8Encode_drop]

/-- What was inserted is found where it was put. -/
theorem slice_splice (inside : index ≤ text.length) (stop : Nat) (inserted : Text) :
    (text.splice index stop inserted).slice index (index + inserted.length) = inserted := by
  rw [splice, slice, List.append_assoc, List.drop_left' (List.length_take_of_le inside),
    Nat.add_sub_cancel_left, List.take_left]

/-- Offsets in characters and in bytes are adjoint as far as the text goes. Converted there and back,
an offset in characters is clamped to the text, and one in bytes is rounded down to a boundary. Slices
and replacements by characters are those of the encoding at the converted offsets. -/
theorem offsets_are_adjoint (text : Text) :
    (∀ index offset, index ≤ text.length →
      (text.byteOffset index ≤ offset ↔ index ≤ text.characterIndex offset)) ∧
    (∀ index, text.characterIndex (text.byteOffset index) = min index text.length) ∧
    (∀ offset, IsGreatest
      {boundary | text.IsBoundary boundary ∧ boundary ≤ min offset text.utf8Encode.size}
      (text.byteOffset (text.characterIndex offset))) ∧
    Monotone text.byteOffset ∧
    Monotone text.characterIndex ∧
    (∀ start stop, (text.slice start stop).utf8Encode =
      text.utf8Encode.extract (text.byteOffset start) (text.byteOffset (max start stop))) ∧
    ∀ start stop inserted,
      text.splice start stop inserted =
        text.take start ++ inserted ++ text.drop (max start stop) ∧
      (text.splice start stop inserted).utf8Encode =
        text.utf8Encode.extract 0 (text.byteOffset start) ++ inserted.utf8Encode ++
          text.utf8Encode.extract (text.byteOffset (max start stop)) text.utf8Encode.size ∧
      (start ≤ text.length →
        (text.splice start stop inserted).slice start (start + inserted.length) = inserted) := by
  refine ⟨fun _ _ inside => byteOffset_le_iff inside, text.characterIndex_byteOffset,
    text.isGreatest_byteOffset_characterIndex, text.monotone_byteOffset,
    text.monotone_characterIndex, text.utf8Encode_slice, ?_⟩
  intro start stop inserted
  refine ⟨rfl, text.utf8Encode_splice start stop inserted, ?_⟩
  intro inside
  exact slice_splice inside stop inserted

/-- Around an umlaut, whose second byte is no boundary. -/
theorem offsets_are_adjoint_around_umlaut :
    let text : Text := "=ü(A1)".toList
    3 ≤ text.length ∧ (text.byteOffset 3 ≤ 4 ↔ 3 ≤ text.characterIndex 4) ∧
      text.characterIndex (text.byteOffset 2) = 2 ∧ text.byteOffset (text.characterIndex 2) = 1 ∧
      text.splice 3 5 "B2:C3".toList = "=ü(B2:C3)".toList ∧
      (text.splice 3 5 "B2:C3".toList).slice 3 8 = "B2:C3".toList := by
  intro text
  have inside : 3 ≤ text.length := by decide
  obtain ⟨adjoint, backFromBytes, -, -, -, -, replaces⟩ := offsets_are_adjoint text
  obtain ⟨parts, -, found⟩ := replaces 3 5 "B2:C3".toList
  exact ⟨inside, adjoint 3 4 inside, backFromBytes 2, by decide, parts.trans (by decide),
    found inside⟩

end SheetEditor.Text
