import LineLisp.Text.Bytes

/-! Parts of a line, by the bytes at which they begin and end. -/
namespace LineLisp.Text

structure Slice (line : String) (first past : Nat) (part : String) : Prop where
  ordered : first ≤ past
  within : past ≤ line.utf8ByteSize
  begins : (⟨first⟩ : String.Pos.Raw).IsValid line
  ends : (⟨past⟩ : String.Pos.Raw).IsValid line
  bytes : line.toByteArray.extract first past = part.toByteArray

theorem utf8ByteSize_ofList (text : List Char) :
    (String.ofList text).utf8ByteSize = byteLength text := by
  induction text with
  | nil => rfl
  | cons c rest ih =>
    rw [String.ofList_cons, String.utf8ByteSize_append, String.utf8ByteSize_singleton, ih]
    rfl

theorem slice_append (before part after : String) :
    Slice (before ++ (part ++ after)) before.utf8ByteSize
      (before.utf8ByteSize + part.utf8ByteSize) part where
  ordered := Nat.le_add_right _ _
  within := by
    simp only [String.utf8ByteSize_append]
    omega
  begins := String.Pos.Raw.isValid_iff_exists_append.mpr ⟨before, part ++ after, rfl, rfl⟩
  ends := by
    refine String.Pos.Raw.isValid_iff_exists_append.mpr ⟨before ++ part, after, ?_, ?_⟩
    · rw [String.append_assoc]
    · rw [← String.utf8ByteSize_append]
      rfl
  bytes := by
    simp only [String.toByteArray_append, ← String.size_toByteArray]
    have skipped : (before.toByteArray ++ (part.toByteArray ++ after.toByteArray)).extract
        (before.toByteArray.size + 0) (before.toByteArray.size + part.toByteArray.size) =
        (part.toByteArray ++ after.toByteArray).extract 0 part.toByteArray.size :=
      ByteArray.extract_append_size_add
    rw [Nat.add_zero] at skipped
    rw [skipped, ByteArray.extract_append_eq_left rfl]

theorem slice_of_split {line : String} {before part after : List Char}
    (split : line.toList = before ++ (part ++ after)) :
    Slice line (byteLength before) (byteLength before + byteLength part) (String.ofList part) := by
  have joined : line = String.ofList before ++ (String.ofList part ++ String.ofList after) := by
    rw [← String.ofList_append, ← String.ofList_append, ← split, String.ofList_toList]
  have slice := slice_append (String.ofList before) (String.ofList part) (String.ofList after)
  rwa [← joined, utf8ByteSize_ofList, utf8ByteSize_ofList] at slice

theorem Slice.append {line part other : String} {first middle past : Nat}
    (left : Slice line first middle part) (right : Slice line middle past other) :
    Slice line first past (part ++ other) where
  ordered := Nat.le_trans left.ordered right.ordered
  within := right.within
  begins := left.begins
  ends := right.ends
  bytes := by
    rw [ByteArray.extract_eq_extract_append_extract middle left.ordered right.ordered, left.bytes,
      right.bytes, String.toByteArray_append]

end LineLisp.Text
