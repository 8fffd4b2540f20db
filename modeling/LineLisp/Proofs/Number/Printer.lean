import LineLisp.Proofs.Number.Nearest
import LineLisp.Proofs.Pattern.Language

/-! The texts of numbers.
What is printed for a finite number is plain positional notation, and the number is what
that is read as. -/
namespace LineLisp

inductive Whole : List Char → Prop
  | zero : Whole ['0']
  | counted {first digits} (digit : first.isDigit = true) (nonzero : first ≠ '0')
    (numeric : Digits digits) : Whole (first :: digits)

inductive Fraction : List Char → Prop
  | none : Fraction []
  | places {digits} (filled : digits ≠ []) (numeric : Digits digits) : Fraction ('.' :: digits)

theorem Whole.begins {text : List Char} (counted : Whole text) :
    ∃ first rest, text = first :: rest ∧ first.isDigit = true := by
  cases counted with
  | zero => exact ⟨'0', [], rfl, rfl⟩
  | counted digit nonzero numeric => exact ⟨_, _, rfl, digit⟩

theorem Fraction.stopped {text : List Char} (divided : Fraction text) :
    ∀ c ∈ text.head?, c.isDigit = false := by
  cases divided with
  | none => exact nofun
  | places filled numeric =>
    rintro _ ⟨⟩
    rfl

theorem Sign.of_minus {sign : List Char} (signed : sign = [] ∨ sign = ['-']) : Sign sign :=
  signed.elim .inl fun minus => .inr (.inr minus)

inductive Printed : List Char → Prop
  | intro {sign whole fraction} (signed : sign = [] ∨ sign = ['-']) (counted : Whole whole)
    (divided : Fraction fraction) : Printed (sign ++ (whole ++ fraction))

/-- All that is printed could be typed, except for a negative zero. -/
theorem Printed.numeral {text : List Char} (printed : Printed text) (other : text ≠ ['-', '0']) :
    Numeral text := by
  cases printed with
  | @intro sign whole fraction signed counted divided =>
    have sign := Sign.of_minus signed
    cases counted with
    | zero =>
      cases divided with
      | none =>
        rcases signed with rfl | rfl
        · exact .zero
        · exact absurd rfl other
      | places filled numeric => exact .fraction sign filled numeric
    | counted digit nonzero numeric =>
      cases divided with
      | none =>
        rw [List.append_nil]
        exact .whole sign digit nonzero numeric
      | places filled placed => exact .decimal sign digit nonzero numeric placed

namespace Number

theorem digits_toDigits (n : Nat) : Digits (Nat.toDigits 10 n) :=
  fun _ member => Nat.isDigit_of_mem_toDigits (by decide) (by decide) member

theorem counted_toDigits {n : Nat} (positive : n ≠ 0) : ∃ first digits,
    Nat.toDigits 10 n = first :: digits ∧ first.isDigit = true ∧ first ≠ '0' ∧ Digits digits := by
  induction n using Nat.strong_induction_on with
  | _ n ih =>
    by_cases small : n < 10
    · have nonzero : ∀ n < 10, n ≠ 0 → n.digitChar ≠ '0' := by decide
      refine ⟨n.digitChar, [], Nat.toDigits_of_lt_base small, ?_, nonzero n small positive, nofun⟩
      rw [Nat.isDigit_digitChar]
      exact decide_eq_true small
    · obtain ⟨first, digits, split, digit, nonzero, numeric⟩ := ih (n / 10) (by omega) (by omega)
      have last : (n % 10).digitChar.isDigit = true := by
        rw [Nat.isDigit_digitChar]
        exact decide_eq_true (Nat.mod_lt n (by decide))
      refine ⟨first, digits ++ [(n % 10).digitChar], ?_, digit, nonzero, ?_⟩
      · rw [Nat.toDigits_of_base_le (by decide) (Nat.le_of_not_lt small), split, List.cons_append]
      · exact List.forall_mem_append.mpr ⟨numeric, List.forall_mem_singleton.mpr last⟩

theorem whole_toDigits (n : Nat) : Whole (Nat.toDigits 10 n) := by
  by_cases zero : n = 0
  · rw [zero, Nat.toDigits_zero]
    exact .zero
  · obtain ⟨first, digits, split, digit, nonzero, numeric⟩ := counted_toDigits zero
    rw [split]
    exact .counted digit nonzero numeric

theorem digits_paddedDigits (width n : Nat) : Digits (paddedDigits width n) := by
  refine List.forall_mem_append.mpr ⟨fun c member => ?_, digits_toDigits n⟩
  rw [List.eq_of_mem_replicate member]
  rfl

theorem length_paddedDigits {width n : Nat} (positive : 0 < width) (fits : n < tenPow width) :
    (paddedDigits width n).length = width := by
  have bound := (Nat.length_toDigits_le_iff (by decide) positive).mpr fits
  simp only [paddedDigits, List.length_append, List.length_replicate]
  omega

theorem ofDigitChars_paddedDigits (width n : Nat) :
    Nat.ofDigitChars 10 (paddedDigits width n) 0 = n := by
  rw [paddedDigits, Nat.ofDigitChars_append, Nat.ofDigitChars_replicate_zero, Nat.mul_zero,
    Nat.ofDigitChars_ten_toDigits]

theorem ofDigitChars_zeros (digits : List Char) (count : Nat) :
    Nat.ofDigitChars 10 (digits ++ List.replicate count '0') 0 =
      tenPow count * Nat.ofDigitChars 10 digits 0 := by
  rw [Nat.ofDigitChars_append, Nat.ofDigitChars_replicate_zero]
  rfl

theorem zeros_split (text : List Char) :
    ∃ count, text = (text.reverse.dropWhile (· == '0')).reverse ++ List.replicate count '0' := by
  have zeros : ∀ c ∈ text.reverse.takeWhile (· == '0'), c = '0' := by
    intro c member
    have zero := List.mem_takeWhile_imp member
    exact eq_of_beq zero
  refine ⟨(text.reverse.takeWhile (· == '0')).length, ?_⟩
  rw [← List.reverse_replicate, ← List.eq_replicate_of_mem zeros, ← List.reverse_append,
    List.takeWhile_append_dropWhile, List.reverse_reverse]

namespace Decimal

def whole (d : Decimal) : List Char :=
  Nat.toDigits 10 (d.coefficient / tenPow d.places)

def tail (d : Decimal) : List Char :=
  if d.fraction = [] then [] else '.' :: d.fraction

theorem digits_eq (d : Decimal) : d.digits = d.whole ++ d.tail := by
  unfold digits tail
  split
  · rename_i bare
    rw [if_pos bare, List.append_nil]
    rfl
  · rename_i bare
    rw [if_neg bare]
    rfl

/-- As many digits as there are places, less the zeros that are left out. -/
theorem fraction_split {d : Decimal} (placed : d.places ≠ 0) : ∃ count,
    paddedDigits d.places (d.coefficient % tenPow d.places) =
      d.fraction ++ List.replicate count '0' := by
  obtain ⟨count, split⟩ := zeros_split (paddedDigits d.places (d.coefficient % tenPow d.places))
  refine ⟨count, ?_⟩
  rw [fraction, if_neg placed]
  exact split

theorem digits_fraction (d : Decimal) : Digits d.fraction := by
  by_cases placed : d.places = 0
  · rw [fraction, if_pos placed]
    exact nofun
  · obtain ⟨count, split⟩ := fraction_split placed
    have padded := digits_paddedDigits d.places (d.coefficient % tenPow d.places)
    rw [split] at padded
    exact (List.forall_mem_append.mp padded).1

theorem begins (d : Decimal) : ∃ first rest, d.digits = first :: rest ∧ first.isDigit = true := by
  have counted : Whole d.whole := whole_toDigits _
  obtain ⟨first, rest, split, digit⟩ := counted.begins
  rw [digits_eq, split]
  exact ⟨first, _, rfl, digit⟩

theorem fraction_tail (d : Decimal) : Fraction d.tail := by
  unfold tail
  split
  · exact .none
  · rename_i filled
    exact .places filled d.digits_fraction

/-- The digits that are written are those of the coefficient, up to zeros at its end. -/
theorem coefficient_eq (d : Decimal) : ∃ count, d.fraction.length + count = d.places ∧
    Nat.ofDigitChars 10 (d.whole ++ d.fraction) 0 * tenPow count = d.coefficient := by
  have whole : Nat.ofDigitChars 10 d.whole 0 = d.coefficient / tenPow d.places :=
    Nat.ofDigitChars_ten_toDigits
  by_cases placed : d.places = 0
  · have bare : d.fraction = [] := if_pos placed
    refine ⟨0, ?_, ?_⟩
    · rw [bare, placed]
      rfl
    · rw [bare, List.append_nil, whole, placed]
      exact (Nat.mul_one _).trans (Nat.div_one _)
  · obtain ⟨count, split⟩ := fraction_split placed
    have rest := Nat.mod_lt d.coefficient (tenPow_pos d.places)
    have length := length_paddedDigits (Nat.pos_of_ne_zero placed) rest
    have value := ofDigitChars_paddedDigits d.places (d.coefficient % tenPow d.places)
    refine ⟨count, ?_, ?_⟩
    · rw [← length, split, List.length_append, List.length_replicate]
    · calc Nat.ofDigitChars 10 (d.whole ++ d.fraction) 0 * tenPow count
          = Nat.ofDigitChars 10 (d.whole ++ (d.fraction ++ List.replicate count '0')) 0 := by
            rw [← List.append_assoc, ofDigitChars_zeros, Nat.mul_comm]
        _ = tenPow d.places * (d.coefficient / tenPow d.places) + d.coefficient % tenPow d.places := by
            rw [← split, Nat.ofDigitChars_append, Nat.ofDigitChars_eq_ofDigitChars_zero, value,
              whole, length]
            rfl
        _ = d.coefficient := Nat.div_add_mod _ _

theorem ofNumeral_digits_eq (d : Decimal) : Decimal.ofNumeral d.digits =
    ⟨Nat.ofDigitChars 10 (d.whole ++ d.fraction) 0, d.fraction.length⟩ := by
  have numeric : Digits d.whole := digits_toDigits _
  have taken : d.digits.takeWhile Char.isDigit = d.whole := by
    rw [digits_eq, takeWhile_append numeric d.fraction_tail.stopped]
  have behind : d.digits.drop (d.whole.length + 1) = d.fraction := by
    rw [digits_eq, ← List.drop_drop, List.drop_left, tail]
    split
    · rename_i bare
      exact bare.symm
    · rfl
  unfold Decimal.ofNumeral
  simp only [taken, behind, List.takeWhile_eq_self_iff.mpr d.digits_fraction]

/-- The text of a decimal has the value of the decimal. -/
theorem rank_ofNumeral_digits (d : Decimal) : (Decimal.ofNumeral d.digits).rank = d.rank := by
  obtain ⟨count, places, value⟩ := d.coefficient_eq
  rw [ofNumeral_digits_eq, rank, rank, ← places, tenPow_add, ← value,
    nearestRank_mul _ _ (tenPow_pos count)]

end Decimal

variable {x : Float} {negative : Bool} {rank : Nat}

theorem signText_cases (negative : Bool) : signText negative = [] ∨ signText negative = ['-'] := by
  cases negative
  · exact .inl rfl
  · exact .inr rfl

theorem shortest_eq (finite : shape x = .finite negative rank) : (shortest x).toList =
    signText negative ++ (shortestDecimal rank).digits := by
  unfold shortest
  rw [finite, String.toList_ofList]

theorem printed_shortest (finite : shape x = .finite negative rank) :
    Printed (shortest x).toList := by
  rw [shortest_eq finite, Decimal.digits_eq]
  exact .intro (signText_cases negative) (whole_toDigits _) (Decimal.fraction_tail _)

theorem ofNumeral_signText (negative : Bool) {first : Char} (digit : first.isDigit = true)
    (rest : List Char) : ofNumeral (signText negative ++ first :: rest) =
      ofRank negative (Decimal.ofNumeral (first :: rest)).rank := by
  have signed := Sign.of_minus (signText_cases negative)
  have minus : ((signText negative ++ first :: rest).head? == some '-') = negative := by
    cases negative with
    | true => rfl
    | false =>
      have other : first ≠ '-' := by
        rintro rfl
        cases digit
      exact beq_false_of_ne fun same => other (Option.some.inj same)
  unfold ofNumeral
  rw [minus, (unsigned_append signed digit rest).1]

/-- A finite number is read from its text. -/
theorem ofNumeral_shortest (finite : shape x = .finite negative rank) :
    ofNumeral (shortest x).toList = x := by
  obtain ⟨same, bound⟩ := ofRank_shape finite
  have own : (Decimal.ofNumeral (shortestDecimal rank).digits).rank = rank :=
    (Decimal.rank_ofNumeral_digits _).trans (shortestDecimal_rank bound)
  obtain ⟨first, rest, split, digit⟩ := (shortestDecimal rank).begins
  rw [split] at own
  rw [shortest_eq finite, split, ofNumeral_signText negative digit rest, own, same]

end Number

end LineLisp
