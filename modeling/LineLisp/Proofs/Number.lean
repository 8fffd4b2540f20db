import LineLisp.Number.Numeral
import Mathlib

/-! Numerals are numbers.
A binary64 value equals itself unless it is not a number, and what a numeral is
read as is at most infinite. A finite value has a rank. -/
namespace LineLisp.Number

open Float.Model

theorem compare_self {x : UnpackedFloat} (number : x ≠ .notANumber) : x.compare x = some .eq := by
  cases x with
  | notANumber => exact absurd rfl number
  | infinity sign => cases sign <;> rfl
  | zero sign => cases sign <;> rfl
  | finite sign mantissa exponent positive => cases sign <;> simp [UnpackedFloat.compare]

variable {format : Format}

/-- Only the greatest exponent with a mantissa behind it stands for no number. -/
theorem unpack_ne {bits : BitVec format.numBits}
    (ordinary : UnpackedFloat.unpackExponent bits = -1#_ →
      UnpackedFloat.unpackMantissa bits = 0#_) :
    UnpackedFloat.unpack format bits ≠ .notANumber := by
  fun_cases UnpackedFloat.unpack format bits with
  | case1 => exact nofun
  | case2 _ _ top unlike => exact absurd (ordinary top) unlike
  | case3 => exact nofun
  | case4 => exact nofun
  | case5 => exact nofun

theorem unpack_pack_ne {x : UnpackedFloat} (number : x ≠ .notANumber) :
    UnpackedFloat.unpack format (UnpackedFloat.pack format x) ≠ .notANumber := by
  apply unpack_ne
  fun_cases UnpackedFloat.pack with
  | case1 => exact absurd rfl number
  | case2 => simp [UnpackedFloat.packedInfinity]
  | case3 => simp [UnpackedFloat.packedZero]
  | case4 => simp [UnpackedFloat.packedInfinity]
  | case5 sign mantissa exponent positive bits biased small =>
    have below : biased % 2 ^ format.exponentBits ≠ 2 ^ format.exponentBits - 1 := by
      rw [Nat.mod_eq_of_lt (by omega)]
      omega
    simp [BitVec.neg_one_eq_allOnes, ← BitVec.toNat_inj, below]
  | case6 => simp [Nat.pos_iff_ne_zero.1 format.he]

theorem unpack_bits_ne {bits : UInt64} (bound : bits.toNat % twoPow 63 ≤ infinityRank) :
    UnpackedFloat.unpack Format.binary64 bits.toBitVec ≠ .notANumber := by
  apply unpack_ne
  intro top
  have exponent := congrArg BitVec.toNat top
  apply BitVec.eq_of_toNat_eq
  simp [UnpackedFloat.unpackExponent, UnpackedFloat.unpackMantissa, BitVec.extractLsb_toNat,
    Nat.shiftRight_eq_div_pow] at exponent ⊢
  simp [twoPow, infinityRank] at bound
  omega

theorem ofRank_beq_self (negative : Bool) {rank : Nat} (bound : rank ≤ infinityRank) :
    (ofRank negative rank == ofRank negative rank) = true := by
  have word : (UInt64.ofNat (if negative then twoPow 63 + rank else rank)).toNat % twoPow 63 ≤
      infinityRank := by
    simp [twoPow, infinityRank] at bound ⊢
    split <;> omega
  have number : (ofRank negative rank).toModel.unpack ≠ .notANumber :=
    unpack_pack_ne (unpack_bits_ne word)
  change (UnpackedFloat.compare _ _ == some Ordering.eq) = true
  rw [compare_self number]
  rfl

theorem ofNumeral_beq_self (text : List Char) : (ofNumeral text == ofNumeral text) = true :=
  ofRank_beq_self _ (Nat.min_le_left _ _)

theorem isFinite_unpack {bits : BitVec format.numBits}
    (top : UnpackedFloat.unpackExponent bits = -1#_) :
    (UnpackedFloat.unpack format bits).isFinite = false := by
  fun_cases UnpackedFloat.unpack format bits with
  | case1 => rfl
  | case2 => rfl
  | case3 => contradiction
  | case4 => contradiction
  | case5 => contradiction

theorem unpackExponent_eq {bits : UInt64} (beyond : infinityRank ≤ bits.toNat % twoPow 63) :
    @UnpackedFloat.unpackExponent Format.binary64 bits.toBitVec = -1#_ := by
  have size := bits.toNat_lt
  apply BitVec.eq_of_toNat_eq
  simp [UnpackedFloat.unpackExponent, BitVec.extractLsb_toNat, Nat.shiftRight_eq_div_pow]
  simp [twoPow, infinityRank] at beyond
  omega

theorem shape_of_isFinite {x : Float} (finite : x.isFinite = true) :
    ∃ negative rank, shape x = .finite negative rank := by
  unfold shape
  dsimp only
  split
  · exact ⟨_, _, rfl⟩
  · rename_i large
    have infinite : x.isFinite = false :=
      isFinite_unpack (unpackExponent_eq (Nat.le_of_not_lt large))
    rw [infinite] at finite
    cases finite

end LineLisp.Number
