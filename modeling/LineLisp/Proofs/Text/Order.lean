import LineLisp.Proofs.Text.Lines
import Mathlib.Data.String.Basic

/-! The order of texts.
UTF-8 keeps the order of code points: a text comes before another one exactly if its bytes
do. -/
namespace LineLisp.Text

theorem byte_lt_iff {a b : Nat} (first : a < 256) (second : b < 256) (before behind : List UInt8) :
    UInt8.ofNat a :: before < UInt8.ofNat b :: behind ↔ a < b ∨ a = b ∧ before < behind := by
  rw [List.cons_lt_cons_iff, UInt8.lt_iff_toNat_lt, ← UInt8.toNat_inj, UInt8.toNat_ofNat',
    UInt8.toNat_ofNat', Nat.mod_eq_of_lt first, Nat.mod_eq_of_lt second]

theorem digit_lt {m n : Nat} (less : m < n) :
    m / 64 < n / 64 ∨ m / 64 = n / 64 ∧ m % 64 < n % 64 := by
  omega

/-- Numbers are compared digit by digit. A byte of UTF-8 holds a digit in base 64. -/
theorem digits_lt {m n : Nat} (less : m < n) : m / 262144 < n / 262144 ∨
    m / 262144 = n / 262144 ∧ (m / 4096 % 64 < n / 4096 % 64 ∨
      m / 4096 % 64 = n / 4096 % 64 ∧ (m / 64 % 64 < n / 64 % 64 ∨
        m / 64 % 64 = n / 64 % 64 ∧ m % 64 < n % 64)) := by
  have second (k : Nat) : k / 64 / 64 = k / 4096 := Nat.div_div_eq_div_mul k 64 64
  have third (k : Nat) : k / 4096 / 64 = k / 262144 := Nat.div_div_eq_div_mul k 4096 64
  rcases digit_lt less with upper | ⟨same, last⟩
  · have upper := digit_lt upper
    rw [second, second] at upper
    rcases upper with upper | ⟨same, last⟩
    · have upper := digit_lt upper
      rw [third, third] at upper
      omega
    · omega
  · omega

theorem lt_of_isValidChar {n : Nat} (valid : n.isValidChar) : n < 0x110000 := by
  unfold Nat.isValidChar at valid
  omega

/-- The bytes of the smaller character decide, whatever stands behind them. -/
theorem utf8EncodeChar_lt {c d : Char} (less : c < d) (before behind : List UInt8) :
    String.utf8EncodeChar c ++ before < String.utf8EncodeChar d ++ behind := by
  have ordered : c.val.toNat < d.val.toNat := less
  have bound : d.val.toNat < 0x110000 := lt_of_isValidChar d.valid
  have leading (k : Nat) (small : k < 0x110000) : k / 262144 % 8 = k / 262144 := by omega
  have digits := digits_lt ordered
  rw [← leading _ bound, ← leading _ (Nat.lt_trans ordered bound)] at digits
  unfold String.utf8EncodeChar
  dsimp only
  -- The first byte tells how many there are, and it grows with their number.
  split_ifs <;>
    simp (disch := omega) only [List.cons_append, List.nil_append, byte_lt_iff] <;>
    omega

theorem encode_lt {text other : List Char} (less : text < other) : encode text < encode other := by
  induction text generalizing other with
  | nil =>
    cases other with
    | nil => exact absurd less (List.not_lt_nil _)
    | cons d rest =>
      have filled : encode (d :: rest) ≠ [] := by simp [encode]
      obtain ⟨byte, bytes, split⟩ := List.exists_cons_of_ne_nil filled
      rw [split]
      exact List.nil_lt_cons byte bytes
  | cons c more ih =>
    cases other with
    | nil => exact absurd less (List.not_lt_nil _)
    | cons d rest =>
      change String.utf8EncodeChar c ++ encode more < String.utf8EncodeChar d ++ encode rest
      rcases List.cons_lt_cons_iff.mp less with first | ⟨rfl, later⟩
      · exact utf8EncodeChar_lt first _ _
      · exact List.append_left_lt (ih later)

theorem encode_lt_iff (text other : List Char) : encode text < encode other ↔ text < other := by
  refine ⟨fun less => ?_, encode_lt⟩
  rcases lt_trichotomy text other with own | rfl | reversed
  · exact own
  · exact absurd less (List.lt_irrefl _)
  · exact absurd less (List.lt_asymm (encode_lt reversed))

theorem toUTF8_lt_iff (text other : String) :
    text.toUTF8.toList < other.toUTF8.toList ↔ text < other := by
  rw [toList_toUTF8, toList_toUTF8, encode_lt_iff]
  rfl

end LineLisp.Text
