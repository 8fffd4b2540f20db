import LineLisp.Text.Lines

/-! Lines by bytes and by characters.
In UTF-8 a newline and a carriage return are one byte each, which is part of no
other character. So a file is cut into the same lines as its text. -/
namespace LineLisp.Text

section Bytes

theorem toList_loop_eq (file : ByteArray) (i : Nat) (before : List UInt8) :
    ByteArray.toList.loop file i before = before.reverse ++ file.data.toList.drop i := by
  fun_induction ByteArray.toList.loop file i before with
  | case1 i before inside ih =>
    have bound : i < file.data.toList.length := by simpa using inside
    rw [ih, List.drop_eq_getElem_cons bound]
    simp [ByteArray.get!, inside]
  | case2 i before outside =>
    have past : file.data.toList.length ≤ i := by simpa using outside
    rw [List.drop_eq_nil_of_le past, List.append_nil]

theorem toList_eq (file : ByteArray) : file.toList = file.data.toList := by
  rw [ByteArray.toList, toList_loop_eq]
  rfl

def encode (chars : List Char) : List UInt8 :=
  chars.flatMap String.utf8EncodeChar

theorem toList_toUTF8 (text : String) : text.toUTF8.toList = encode text.toList := by
  rw [toList_eq, String.toUTF8_eq_toByteArray, ← String.utf8Encode_toList]
  exact List.toList_data_toByteArray

theorem fromUTF8?_encode (chars : List Char) :
    String.fromUTF8? ⟨(encode chars).toArray⟩ = some (String.ofList chars) := by
  have bytes : (⟨(encode chars).toArray⟩ : ByteArray) = chars.utf8Encode :=
    ByteArray.ext (Array.toList_inj.mp List.toList_data_toByteArray.symm)
  rw [bytes, String.fromUTF8?, dif_pos ByteArray.isValidUTF8_utf8Encode]
  rfl

/-- The bytes of a character that takes more than one are not those of others. -/
theorem le_of_mem_utf8EncodeChar {c : Char} (wide : 128 ≤ c.val.toNat) :
    ∀ byte ∈ String.utf8EncodeChar c, 128 ≤ byte.toNat := by
  unfold String.utf8EncodeChar
  dsimp only
  rw [if_neg (by omega)]
  split
  · simp only [List.mem_cons, List.not_mem_nil, or_false, forall_eq_or_imp, forall_eq,
      UInt8.toNat_ofNat', Nat.reducePow]
    omega
  · split <;>
    · simp only [List.mem_cons, List.not_mem_nil, or_false, forall_eq_or_imp, forall_eq,
        UInt8.toNat_ofNat', Nat.reducePow]
      omega

/-- A byte below 128 is a character, and part of no other one. -/
theorem not_mem_utf8EncodeChar {c other : Char} {byte : UInt8} (small : byte.toNat < 128)
    (own : c.val.toNat = byte.toNat) (apart : other ≠ c) : byte ∉ String.utf8EncodeChar other := by
  intro member
  by_cases wide : 128 ≤ other.val.toNat
  · exact absurd (le_of_mem_utf8EncodeChar wide byte member) (by omega)
  · have single : String.utf8EncodeChar other = [UInt8.ofNat other.val.toNat] := if_pos (by omega)
    rw [single, List.mem_singleton] at member
    rw [member, UInt8.toNat_ofNat', Nat.mod_eq_of_lt (by omega)] at own
    exact apart (Char.ext (UInt32.toNat_inj.mp own.symm))

end Bytes

section Cut

variable {α : Type} [DecidableEq α] {newline ret : α}

/-- No line ends in a part without newlines. -/
theorem linesFrom_append (current : List α) {front : List α} (free : newline ∉ front)
    (back : List α) : linesFrom newline ret current (front ++ back) =
      linesFrom newline ret (front.reverse ++ current) back := by
  induction front generalizing current with
  | nil => rfl
  | cons c rest ih =>
    obtain ⟨other, later⟩ := not_or.mp (mt List.mem_cons.mpr free)
    rw [List.cons_append, linesFrom, if_neg (Ne.symm other), ih _ later, List.reverse_cons,
      List.append_assoc, List.singleton_append]

theorem withoutReturn_eq {backwards : List α} (other : backwards.head? ≠ some ret) :
    withoutReturn ret backwards = backwards.reverse := by
  cases backwards with
  | nil => rfl
  | cons c before => exact if_neg fun same => other (congrArg some same)

theorem mem_of_mem_withoutReturn {c : α} {backwards : List α}
    (member : c ∈ withoutReturn ret backwards) : c ∈ backwards := by
  cases backwards with
  | nil => exact member
  | cons last before =>
    rw [withoutReturn] at member
    split at member
    · exact List.mem_cons_of_mem _ (List.mem_reverse.mp member)
    · exact List.mem_reverse.mp member

theorem mem_of_mem_linesFrom {c : α} {line current chars : List α} (member : c ∈ line)
    (among : line ∈ linesFrom newline ret current chars) : c ∈ current ∨ c ∈ chars := by
  induction chars generalizing current with
  | nil =>
    unfold linesFrom at among
    split at among
    · cases among
    · rw [List.mem_singleton] at among
      subst among
      exact .inl (List.mem_reverse.mp member)
  | cons next rest ih =>
    unfold linesFrom at among
    split at among
    · rcases List.mem_cons.mp among with rfl | later
      · exact .inl (mem_of_mem_withoutReturn member)
      · exact .inr (List.mem_cons_of_mem _ ((ih later).resolve_left List.not_mem_nil))
    · rcases ih among with before | behind
      · rcases List.mem_cons.mp before with rfl | before
        · exact .inr List.mem_cons_self
        · exact .inl before
      · exact .inr (List.mem_cons_of_mem _ behind)

end Cut

theorem mem_of_mem_lines {c : Char} {line text : String} (member : c ∈ line.toList)
    (among : line ∈ lines text) : c ∈ text.toList := by
  obtain ⟨chars, cut, rfl⟩ := List.mem_map.mp among
  rw [String.toList_ofList] at member
  exact (mem_of_mem_linesFrom member cut).resolve_left List.not_mem_nil

theorem encode_append (front back : List Char) :
    encode (front ++ back) = encode front ++ encode back :=
  List.flatMap_append

theorem encode_singleton (c : Char) : encode [c] = String.utf8EncodeChar c :=
  List.append_nil _

theorem reverse_encode_cons (c : Char) (before : List Char) :
    (encode (c :: before).reverse).reverse =
      (String.utf8EncodeChar c).reverse ++ (encode before.reverse).reverse := by
  rw [List.reverse_cons, encode_append, encode_singleton, List.reverse_append]

theorem withoutReturn_encode (current : List Char) :
    withoutReturn 13 (encode current.reverse).reverse = encode (withoutReturn '\r' current) := by
  cases current with
  | nil => rfl
  | cons c before =>
    by_cases ret : c = '\r'
    · subst ret
      rw [reverse_encode_cons]
      exact List.reverse_reverse _
    · have other : (encode (c :: before).reverse).reverse.head? ≠ some 13 := by
        rw [reverse_encode_cons, List.head?_append]
        have filled : (String.utf8EncodeChar c).reverse ≠ [] := by simp
        obtain ⟨byte, bytes, split⟩ := List.exists_cons_of_ne_nil filled
        have member : byte ∈ String.utf8EncodeChar c :=
          List.mem_reverse.mp (split ▸ List.mem_cons_self)
        rw [split]
        intro same
        obtain rfl : byte = 13 := Option.some.inj same
        exact not_mem_utf8EncodeChar (by decide) (by decide) ret member
      have kept : withoutReturn '\r' (c :: before) = (c :: before).reverse :=
        withoutReturn_eq (by simpa using ret)
      rw [withoutReturn_eq other, List.reverse_reverse, kept]

theorem linesFrom_encode (current chars : List Char) :
    linesFrom 10 13 (encode current.reverse).reverse (encode chars) =
      (linesFrom '\n' '\r' current chars).map encode := by
  induction chars generalizing current with
  | nil =>
    cases current with
    | nil => rfl
    | cons c before =>
      have filled : (encode (c :: before).reverse).reverse ≠ [] := by
        rw [reverse_encode_cons]
        simp
      change (if _ then _ else _) = _
      rw [if_neg (by simpa using filled), List.reverse_reverse]
      rfl
  | cons c rest ih =>
    change linesFrom 10 13 _ (String.utf8EncodeChar c ++ encode rest) = _
    by_cases newline : c = '\n'
    · subst newline
      change withoutReturn 13 _ :: linesFrom 10 13 [] (encode rest) = _
      rw [withoutReturn_encode]
      exact congrArg _ (ih [])
    · have free : 10 ∉ String.utf8EncodeChar c :=
        not_mem_utf8EncodeChar (by decide) (by decide) newline
      rw [linesFrom_append _ free, ← reverse_encode_cons, ih, linesFrom, if_neg newline]

/-- A file that holds a text has the lines of the text. -/
theorem fileLines_toUTF8 (text : String) : fileLines text.toUTF8 = (lines text).map some := by
  unfold fileLines lines
  rw [toList_toUTF8]
  have cut := linesFrom_encode [] text.toList
  change linesFrom 10 13 [] (encode text.toList) = _ at cut
  rw [cut, List.map_map, List.map_map]
  exact List.map_congr_left fun line _ => fromUTF8?_encode line

end LineLisp.Text
