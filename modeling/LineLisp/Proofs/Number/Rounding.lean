import LineLisp.Proofs.Number.Printer

/-! Numbers rounded to two places.
The text has two digits behind the point, and the hundredths that it stands for are those
nearest to the exact value. -/
namespace LineLisp.Number

def distance (num den count : Nat) : Nat :=
  ((count * den : Nat) - num : Int).natAbs

structure Nearest (num den count : Nat) : Prop where
  least : ∀ other, distance num den count ≤ distance num den other
  even : ∀ other, other ≠ count → distance num den other = distance num den count →
    count % 2 = 0 ∧ other % 2 = 1

variable {num den : Nat}

theorem distance_down : distance num den (num / den) = num % den := by
  have split := Nat.div_add_mod' num den
  unfold distance
  omega

theorem distance_up (positive : 0 < den) :
    distance num den (num / den + 1) = den - num % den := by
  have split := Nat.div_add_mod' num den
  have small := Nat.mod_lt num positive
  have next : (num / den + 1) * den = num / den * den + den := Nat.succ_mul ..
  unfold distance
  omega

/-- All integers but the two neighbours are further off than these can be. -/
theorem distance_far (positive : 0 < den) {other : Nat} (down : other ≠ num / den)
    (up : other ≠ num / den + 1) : den ≤ distance num den other := by
  have split := Nat.div_add_mod' num den
  have small := Nat.mod_lt num positive
  unfold distance
  rcases Nat.lt_or_gt_of_ne down with below | above
  · have bound := Nat.mul_le_mul_right den (Nat.succ_le_of_lt below)
    rw [Nat.succ_mul] at bound
    omega
  · have bound := Nat.mul_le_mul_right den (Nat.succ_le_of_lt (Nat.lt_of_le_of_ne above (Ne.symm up)))
    rw [Nat.succ_mul, Nat.succ_mul] at bound
    omega

theorem roundHalfEven_nearest (num : Nat) (positive : 0 < den) :
    Nearest num den (roundHalfEven num den) := by
  have down : distance num den (num / den) = num % den := distance_down
  have up : distance num den (num / den + 1) = den - num % den := distance_up positive
  have small := Nat.mod_lt num positive
  have others (other : Nat) : other = num / den ∨ other = num / den + 1 ∨
      den ≤ distance num den other := by
    by_cases own : other = num / den
    · exact .inl own
    · by_cases next : other = num / den + 1
      · exact .inr (.inl next)
      · exact .inr (.inr (distance_far positive own next))
  unfold roundHalfEven
  dsimp only
  split
  · constructor
    · intro other
      rcases others other with rfl | rfl | far <;> omega
    · intro other apart tie
      rcases others other with rfl | rfl | far <;> omega
  · constructor
    · intro other
      rcases others other with rfl | rfl | far <;> omega
    · intro other apart tie
      rcases others other with rfl | rfl | far <;> omega

inductive Rounded (x : Float) : String → Prop
  | finite {negative rank whole places} (value : shape x = .finite negative rank)
    (counted : Whole whole) (numeric : Digits places) (two : places.length = 2)
    (nearest : Nearest (units rank * 100) unitsPerOne (Nat.ofDigitChars 10 (whole ++ places) 0)) :
    Rounded x (String.ofList (signText negative ++ (whole ++ '.' :: places)))
  | infinite {negative} (value : shape x = .infinite negative) :
    Rounded x (String.ofList (signText negative ++ ['i', 'n', 'f']))
  | nan (value : shape x = .nan) : Rounded x "NaN"

theorem ofDigitChars_hundredths (n : Nat) :
    Nat.ofDigitChars 10 (Nat.toDigits 10 (n / 100) ++ paddedDigits 2 (n % 100)) 0 = n := by
  have length : (paddedDigits 2 (n % 100)).length = 2 :=
    length_paddedDigits (by decide) (Nat.mod_lt n (by decide))
  rw [Nat.ofDigitChars_append, Nat.ofDigitChars_ten_toDigits,
    Nat.ofDigitChars_eq_ofDigitChars_zero, ofDigitChars_paddedDigits, length]
  exact Nat.div_add_mod n 100

theorem fixedTwo_rounded (x : Float) : Rounded x (fixedTwo x) := by
  unfold fixedTwo
  cases value : shape x with
  | nan => exact .nan value
  | infinite negative => exact .infinite value
  | finite negative rank =>
    dsimp only
    rw [List.append_assoc]
    refine .finite value (whole_toDigits _) (digits_paddedDigits _ _) ?_ ?_
    · exact length_paddedDigits (by decide) (Nat.mod_lt _ (by decide))
    · rw [ofDigitChars_hundredths]
      exact roundHalfEven_nearest _ (twoPow_pos 1074)

end LineLisp.Number
