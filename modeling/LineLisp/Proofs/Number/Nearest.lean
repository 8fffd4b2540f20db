import LineLisp.Number.Printer
import Mathlib

/-! The nearest number.
Which number is nearest to a fraction depends on the value of the fraction alone, and a
number is nearest to its own value. Hence a printed decimal reads back as its number. -/
namespace LineLisp.Number

theorem twoPow_pos (n : Nat) : 0 < twoPow n :=
  Nat.pow_pos (by decide)

theorem tenPow_pos (n : Nat) : 0 < tenPow n :=
  Nat.pow_pos (by decide)

theorem tenPow_add (m n : Nat) : tenPow (m + n) = tenPow m * tenPow n :=
  Nat.pow_add 10 m n

theorem tenPow_eq (n : Nat) : tenPow n = twoPow n * Nat.pow 5 n :=
  Nat.mul_pow 2 5 n

theorem roundHalfEven_mul (num den : Nat) {k : Nat} (positive : 0 < k) :
    roundHalfEven (num * k) (den * k) = roundHalfEven num den := by
  have half : 2 * (num % den * k) = 2 * (num % den) * k := (Nat.mul_assoc ..).symm
  unfold roundHalfEven
  simp only [Nat.mul_div_mul_right num den positive, Nat.mul_mod_mul_right, half,
    Nat.mul_lt_mul_right positive, Nat.mul_left_inj (Nat.ne_of_gt positive)]

theorem roundHalfEven_exact (n : Nat) {den : Nat} (positive : 0 < den) :
    roundHalfEven (n * den) den = n := by
  have above : ¬den < 0 := Nat.not_lt_zero den
  have apart : 0 ≠ den := Nat.ne_of_lt positive
  simp [roundHalfEven, Nat.mul_div_cancel n positive, above, apart]

/-- Reduced or not, a fraction has the same nearest number. -/
theorem nearestRank_mul (num den : Nat) {k : Nat} (positive : 0 < k) :
    nearestRank (num * k) (den * k) = nearestRank num den := by
  have scaled : num * k * unitsPerOne = num * unitsPerOne * k := Nat.mul_right_comm ..
  have divisor (n : Nat) : den * k * n = den * n * k := Nat.mul_right_comm ..
  unfold nearestRank
  simp only [scaled, divisor, Nat.mul_div_mul_right _ den positive, roundHalfEven_mul _ _ positive]

theorem rank_fives (num places : Nat) :
    (Decimal.mk (num * Nat.pow 5 places) places).rank = nearestRank num (twoPow places) := by
  have fives : 0 < Nat.pow 5 places := Nat.pow_pos (by decide)
  rw [Decimal.rank, tenPow_eq, nearestRank_mul _ _ fives]

theorem nearestRank_zero {den : Nat} (positive : 0 < den) : nearestRank 0 den = 0 := by
  have whole (n : Nat) : roundHalfEven 0 (den * twoPow n) = 0 := by
    have exact := roundHalfEven_exact 0 (Nat.mul_pos positive (twoPow_pos n))
    rwa [Nat.zero_mul] at exact
  have binade : Nat.log2 0 - 52 = 0 := rfl
  unfold nearestRank
  simp only [Nat.zero_mul, Nat.zero_div, whole, binade]
  exact Nat.min_eq_right (Nat.zero_le _)

theorem nearestRank_units_eq (n : Nat) : nearestRank n unitsPerOne =
    min infinityRank ((n.log2 - 52) * twoPow 52 + roundHalfEven n (twoPow (n.log2 - 52))) := by
  have positive : 0 < unitsPerOne := twoPow_pos 1074
  have commuted : unitsPerOne * twoPow (n.log2 - 52) = twoPow (n.log2 - 52) * unitsPerOne :=
    Nat.mul_comm ..
  unfold nearestRank
  simp only [Nat.mul_div_cancel n positive, commuted, roundHalfEven_mul _ _ positive]

/-- From rank 2^53 on, a number is a mantissa of 53 bits times a power of two. -/
theorem units_split {rank : Nat} (large : twoPow 53 ≤ rank) : ∃ mantissa exponent,
    units rank = mantissa * twoPow exponent ∧ twoPow 52 ≤ mantissa ∧ mantissa < twoPow 53 ∧
      rank = exponent * twoPow 52 + mantissa := by
  have low : twoPow 52 = 4503599627370496 := rfl
  have high : twoPow 53 = 9007199254740992 := rfl
  refine ⟨twoPow 52 + rank % twoPow 52, rank / twoPow 52 - 1, if_neg (by omega), ?_⟩
  simp only [low, high] at large ⊢
  omega

theorem log2_mantissa {mantissa : Nat} (least : twoPow 52 ≤ mantissa) (most : mantissa < twoPow 53)
    (exponent : Nat) : (mantissa * twoPow exponent).log2 = 52 + exponent := by
  have positive := twoPow_pos exponent
  have filled : mantissa * twoPow exponent ≠ 0 :=
    Nat.ne_of_gt (Nat.mul_pos (Nat.lt_of_lt_of_le (twoPow_pos 52) least) positive)
  rw [Nat.log2_eq_iff filled]
  constructor
  · rw [Nat.pow_add]
    exact Nat.mul_le_mul_right _ least
  · rw [Nat.add_right_comm, Nat.pow_add]
    exact Nat.mul_lt_mul_of_pos_right most positive

/-- A finite number is the one nearest to its own value. -/
theorem nearestRank_units {rank : Nat} (finite : rank < infinityRank) :
    nearestRank (units rank) unitsPerOne = rank := by
  rw [nearestRank_units_eq]
  by_cases small : rank < twoPow 53
  · have binade : rank.log2 - 52 = 0 := by
      by_cases zero : rank = 0
      · rw [zero]
        rfl
      · have bound := (Nat.log2_lt zero).mpr small
        omega
    have exact := roundHalfEven_exact rank (twoPow_pos 0)
    rw [show rank * twoPow 0 = rank from Nat.mul_one rank] at exact
    rw [units, if_pos small, binade, exact, Nat.zero_mul, Nat.zero_add]
    exact Nat.min_eq_right (Nat.le_of_lt finite)
  · obtain ⟨mantissa, exponent, split, least, most, whole⟩ := units_split (Nat.le_of_not_lt small)
    rw [split, log2_mantissa least most, Nat.add_sub_cancel_left,
      roundHalfEven_exact mantissa (twoPow_pos exponent), ← whole]
    exact Nat.min_eq_right (Nat.le_of_lt finite)

theorem exactDecimal_rank {rank : Nat} (finite : rank < infinityRank) :
    (exactDecimal rank).rank = rank := by
  have own := nearestRank_units finite
  unfold unitsPerOne at own
  unfold exactDecimal
  generalize 1074 = places at own ⊢
  rw [rank_fives, own]

theorem shortestDecimal_rank {rank : Nat} (finite : rank < infinityRank) :
    (shortestDecimal rank).rank = rank := by
  unfold shortestDecimal
  split
  · rename_i zero
    rw [zero]
    exact nearestRank_zero (tenPow_pos 0)
  · cases found : shortestWithin rank 17 with
    | none =>
      rw [Option.getD_none]
      exact exactDecimal_rank finite
    | some decimal =>
      obtain ⟨places, -, held⟩ := List.exists_of_findSome?_eq_some found
      have same := List.find?_some held
      exact eq_of_beq same

/-- The bits of a finite number are its sign and its rank. -/
theorem ofRank_shape {x : Float} {negative : Bool} {rank : Nat}
    (finite : shape x = .finite negative rank) : ofRank negative rank = x ∧ rank < infinityRank := by
  unfold shape at finite
  dsimp only at finite
  split at finite
  · rename_i bound
    cases finite
    refine ⟨?_, bound⟩
    have bits : (if decide (twoPow 63 ≤ x.toBits.toNat) = true then
        twoPow 63 + x.toBits.toNat % twoPow 63 else x.toBits.toNat % twoPow 63) =
          x.toBits.toNat := by
      have size := x.toBits.toNat_lt
      have sign : twoPow 63 = 9223372036854775808 := rfl
      simp only [decide_eq_true_eq, sign]
      split <;> omega
    rw [ofRank, bits, UInt64.ofNat_toNat, Float.ofBits_toBits]
  · split at finite <;> cases finite

end LineLisp.Number
