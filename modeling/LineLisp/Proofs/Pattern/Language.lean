import LineLisp.Proofs.Text.Classes
import Mathlib.Data.List.TakeWhile

/-! The languages of the patterns.
What each pattern may take of a text is said without a way to find it. A pattern
takes what it may and the most that it may. -/
namespace LineLisp

def Sign (sign : List Char) : Prop :=
  sign = [] ∨ sign = ['+'] ∨ sign = ['-']

def Digits (digits : List Char) : Prop :=
  ∀ c ∈ digits, c.isDigit = true

inductive Numeral : List Char → Prop
  | fraction {sign digits} (signed : Sign sign) (filled : digits ≠ []) (numeric : Digits digits) :
    Numeral (sign ++ '0' :: '.' :: digits)
  | zero : Numeral ['0']
  | whole {sign first digits} (signed : Sign sign) (digit : first.isDigit = true)
    (nonzero : first ≠ '0') (numeric : Digits digits) : Numeral (sign ++ first :: digits)
  | decimal {sign first digits places} (signed : Sign sign) (digit : first.isDigit = true)
    (nonzero : first ≠ '0') (numeric : Digits digits) (placed : Digits places) :
    Numeral (sign ++ first :: (digits ++ '.' :: places))

inductive Identifier : List Char → Prop
  | intro {first rest} (letter : first.isAlpha = true) (named : ∀ c ∈ rest, isNameChar c = true) :
    Identifier (first :: rest)

/-- What stands before the first character that is not of a kind. -/
theorem takeWhile_append {kind : Char → Bool} {front rest : List Char}
    (inside : ∀ c ∈ front, kind c = true) (stopped : ∀ c ∈ rest.head?, kind c = false) :
    (front ++ rest).takeWhile kind = front := by
  rw [List.takeWhile_append_of_pos inside]
  cases rest with
  | nil => simp
  | cons c more => simp [stopped c rfl]

theorem isVisible_of_isDigit {c : Char} (digit : c.isDigit = true) : Text.isVisible c = true := by
  apply Text.isVisible_of_isNameChar
  simp [isNameChar, Char.isAlphanum, digit]

theorem Sign.isVisible {sign : List Char} (signed : Sign sign) {c : Char} (member : c ∈ sign) :
    Text.isVisible c = true := by
  rcases signed with rfl | rfl | rfl
  · cases member
  · rw [List.mem_singleton.mp member]
    rfl
  · rw [List.mem_singleton.mp member]
    rfl

theorem Numeral.isVisible {front : List Char} (numeral : Numeral front) {c : Char}
    (member : c ∈ front) : Text.isVisible c = true := by
  cases numeral with
  | fraction signed filled numeric =>
    simp only [List.mem_append, List.mem_cons] at member
    rcases member with inside | rfl | rfl | inside
    · exact signed.isVisible inside
    · rfl
    · rfl
    · exact isVisible_of_isDigit (numeric c inside)
  | zero =>
    rw [List.mem_singleton.mp member]
    rfl
  | whole signed digit nonzero numeric =>
    simp only [List.mem_append, List.mem_cons] at member
    rcases member with inside | rfl | inside
    · exact signed.isVisible inside
    · exact isVisible_of_isDigit digit
    · exact isVisible_of_isDigit (numeric c inside)
  | decimal signed digit nonzero numeric placed =>
    simp only [List.mem_append, List.mem_cons] at member
    rcases member with inside | rfl | inside | rfl | inside
    · exact signed.isVisible inside
    · exact isVisible_of_isDigit digit
    · exact isVisible_of_isDigit (numeric c inside)
    · rfl
    · exact isVisible_of_isDigit (placed c inside)

theorem Numeral.begins {front : List Char} (numeral : Numeral front) :
    ∃ c rest, front = c :: rest ∧ (Number.isSign c || c.isDigit) = true := by
  have leading {sign rest : List Char} {first : Char} (signed : Sign sign)
      (digit : first.isDigit = true) :
      ∃ c rest', sign ++ first :: rest = c :: rest' ∧ (Number.isSign c || c.isDigit) = true := by
    rcases signed with rfl | rfl | rfl
    · exact ⟨_, _, rfl, by simp [digit]⟩
    · exact ⟨_, _, rfl, rfl⟩
    · exact ⟨_, _, rfl, rfl⟩
  cases numeral with
  | fraction signed => exact leading signed rfl
  | zero => exact ⟨_, _, rfl, rfl⟩
  | whole signed digit => exact leading signed digit
  | decimal signed digit => exact leading signed digit

theorem Numeral.holds_digit {front : List Char} (numeral : Numeral front) :
    ∃ c ∈ front, c.isDigit = true := by
  cases numeral with
  | fraction => exact ⟨'0', by simp, rfl⟩
  | zero => exact ⟨'0', by simp, rfl⟩
  | whole _ digit => exact ⟨_, by simp, digit⟩
  | decimal _ digit => exact ⟨_, by simp, digit⟩

theorem Numeral.not_prefix {front other : List Char} (numeral : Numeral front)
    (none : other.all (!·.isDigit) = true) : ¬front <+: other := by
  intro inside
  obtain ⟨c, member, digit⟩ := numeral.holds_digit
  have plain := List.all_eq_true.mp none c (inside.subset member)
  simp [digit] at plain

theorem Identifier.isNameChar {front : List Char} (identifier : Identifier front) {c : Char}
    (member : c ∈ front) : isNameChar c = true := by
  cases identifier with
  | intro letter named =>
    rcases List.mem_cons.mp member with rfl | inside
    · simp [LineLisp.isNameChar, Char.isAlphanum, letter]
    · exact named c inside

theorem not_leading_of_isAlpha {c : Char} (letter : c.isAlpha = true) :
    (Number.isSign c || c.isDigit) = false := by
  rw [Bool.eq_false_iff]
  intro leading
  simp only [Number.isSign, Bool.or_eq_true, beq_iff_eq] at leading
  rcases leading with (rfl | rfl) | digit
  · cases letter
  · cases letter
  · unfold Char.isAlpha Char.isUpper Char.isLower at letter
    unfold Char.isDigit at digit
    simp [UInt32.le_iff_toNat_le] at letter digit
    omega

theorem Identifier.begins {front : List Char} (identifier : Identifier front) :
    ∃ c rest, front = c :: rest ∧ c.isAlpha = true := by
  cases identifier with
  | intro letter => exact ⟨_, _, rfl, letter⟩

theorem digitCount_append {digits : List Char} (numeric : Digits digits) (rest : List Char) :
    digitCount (digits ++ rest) = digits.length + digitCount rest := by
  simp [digitCount, List.takeWhile_append_of_pos numeric]

theorem digits_split (text : List Char) :
    ∃ digits rest, text = digits ++ rest ∧ digits.length = digitCount text ∧ Digits digits :=
  ⟨text.takeWhile Char.isDigit, text.dropWhile Char.isDigit, by simp, rfl,
    fun _ member => List.mem_takeWhile_imp member⟩

theorem not_sign_of_digit {c : Char} (digit : c.isDigit = true) : Number.isSign c = false := by
  rw [Bool.eq_false_iff]
  intro signed
  simp only [Number.isSign, Bool.or_eq_true, beq_iff_eq] at signed
  rcases signed with rfl | rfl <;> cases digit

theorem sign_split (text : List Char) : ∃ sign, Sign sign ∧ text = sign ++ Number.unsigned text ∧
    signCount text = sign.length := by
  cases text with
  | nil => exact ⟨[], .inl rfl, rfl, rfl⟩
  | cons c rest =>
    by_cases signed : Number.isSign c = true
    · refine ⟨[c], ?_, by simp [Number.unsigned, signed], by simp [signCount, signed]⟩
      simpa [Sign, Number.isSign] using signed
    · exact ⟨[], .inl rfl, by simp [Number.unsigned, signed], by simp [signCount, signed]⟩

theorem unsigned_append {sign : List Char} {first : Char} (signed : Sign sign)
    (digit : first.isDigit = true) (rest : List Char) :
    Number.unsigned (sign ++ first :: rest) = first :: rest ∧
      signCount (sign ++ first :: rest) = sign.length := by
  have plain := not_sign_of_digit digit
  rcases signed with rfl | rfl | rfl
  · simp [Number.unsigned, signCount, plain]
  · exact ⟨rfl, rfl⟩
  · exact ⟨rfl, rfl⟩

namespace Pattern

def Accepts (pattern : Pattern) (front back : List Char) : Prop :=
  match pattern with
  | mark word _ => front = word.toList
  | keyword word _ => front = word.toList ∧ Text.atWordEnd back = true
  | numeral => Numeral front
  | identifier => Identifier front

theorem fractionLength?_sound {text : List Char} {n : Nat} (fits : fractionLength? text = some n) :
    ∃ front back, text = front ++ back ∧ front.length = n ∧ Numeral front := by
  obtain ⟨sign, signed, split, count⟩ := sign_split text
  unfold fractionLength? at fits
  split at fits
  · rename_i rest unsigned
    obtain ⟨digits, back, rfl, length, numeric⟩ := digits_split rest
    split at fits
    · cases fits
    · rename_i more counted
      cases fits
      rw [counted] at length
      have filled : digits ≠ [] := by
        rintro rfl
        cases length
      refine ⟨_, back, ?_, ?_, .fraction signed filled numeric⟩
      · rw [split, unsigned]
        simp
      · simp [count, length]
        omega
  · cases fits

theorem decimalLength?_sound {text : List Char} {n : Nat} (fits : decimalLength? text = some n) :
    ∃ front back, text = front ++ back ∧ front.length = n ∧ Numeral front := by
  obtain ⟨sign, signed, split, count⟩ := sign_split text
  unfold decimalLength? at fits
  split at fits
  · rename_i first rest unsigned
    obtain ⟨digits, back, rfl, length, numeric⟩ := digits_split rest
    split at fits
    · rename_i leading
      simp only [Bool.and_eq_true, bne_iff_ne] at leading
      simp only [← length, List.drop_left] at fits
      split at fits
      · rename_i more
        obtain ⟨places, remaining, rfl, taken, placed⟩ := digits_split more
        cases fits
        refine ⟨_, remaining, ?_, ?_, .decimal signed leading.1 leading.2 numeric placed⟩
        · rw [split, unsigned]
          simp
        · simp [count, ← taken]
          omega
      · cases fits
        refine ⟨_, back, ?_, ?_, .whole signed leading.1 leading.2 numeric⟩
        · rw [split, unsigned]
          simp
        · simp [count]
          omega
    · cases fits
  · cases fits

theorem numeralLength?_sound {text : List Char} {n : Nat} (fits : numeralLength? text = some n) :
    ∃ front back, text = front ++ back ∧ front.length = n ∧ Numeral front := by
  simp only [numeralLength?, Option.or_eq_some_iff] at fits
  rcases fits with fits | ⟨_, fits | ⟨_, fits⟩⟩
  · exact fractionLength?_sound fits
  · unfold zeroLength? at fits
    split at fits <;> cases fits
    exact ⟨['0'], _, rfl, rfl, .zero⟩
  · exact decimalLength?_sound fits

theorem fractionLength?_max {sign digits : List Char} (signed : Sign sign) (filled : digits ≠ [])
    (numeric : Digits digits) (back : List Char) :
    ∃ n, fractionLength? (sign ++ '0' :: '.' :: (digits ++ back)) = some n ∧
      sign.length + 2 + digits.length ≤ n := by
  have digit : Char.isDigit '0' = true := rfl
  obtain ⟨unsigned, count⟩ := unsigned_append signed digit ('.' :: (digits ++ back))
  have positive := List.length_pos_iff.mpr filled
  have counted := digitCount_append numeric back
  unfold fractionLength?
  rw [unsigned]
  cases total : digitCount (digits ++ back) with
  | zero => omega
  | succ n =>
    simp only [total, count]
    exact ⟨_, rfl, by omega⟩

theorem decimalLength?_eq {sign : List Char} {first : Char} (signed : Sign sign)
    (digit : first.isDigit = true) (nonzero : first ≠ '0') (rest : List Char) :
    decimalLength? (sign ++ first :: rest) =
      match rest.drop (digitCount rest) with
      | '.' :: places => some (sign.length + (1 + digitCount rest) + 1 + digitCount places)
      | _ => some (sign.length + (1 + digitCount rest)) := by
  obtain ⟨unsigned, count⟩ := unsigned_append signed digit rest
  have leading : (first.isDigit && first != '0') = true := by simp [digit, nonzero]
  unfold decimalLength?
  rw [unsigned, count]
  exact if_pos leading

/-- Only a number whose first digit is zero has another shape than that of a decimal number. -/
theorem numeralLength?_eq {sign : List Char} {first : Char} (signed : Sign sign)
    (digit : first.isDigit = true) (nonzero : first ≠ '0') (rest : List Char) :
    numeralLength? (sign ++ first :: rest) = decimalLength? (sign ++ first :: rest) := by
  obtain ⟨unsigned, -⟩ := unsigned_append signed digit rest
  have noFraction : fractionLength? (sign ++ first :: rest) = none := by
    unfold fractionLength?
    rw [unsigned]
    split
    · rename_i same
      exact absurd (List.cons.inj same).1 nonzero
    · rfl
  have noZero : zeroLength? (sign ++ first :: rest) = none := by
    rcases signed with rfl | rfl | rfl
    · unfold zeroLength?
      split
      · rename_i same
        exact absurd (List.cons.inj same).1 nonzero
      · rfl
    · rfl
    · rfl
  rw [numeralLength?, noFraction, noZero]
  rfl

theorem numeralLength?_max {front : List Char} (numeral : Numeral front) (back : List Char) :
    ∃ n, numeralLength? (front ++ back) = some n ∧ front.length ≤ n := by
  cases numeral with
  | @fraction sign digits signed filled numeric =>
    obtain ⟨n, fits, long⟩ := fractionLength?_max signed filled numeric back
    refine ⟨n, ?_, ?_⟩
    · simp [numeralLength?, fits]
    · simp only [List.length_append, List.length_cons]
      omega
  | zero =>
    cases fits : fractionLength? (['0'] ++ back) with
    | none => exact ⟨1, by simp only [numeralLength?, fits]; rfl, Nat.le_refl 1⟩
    | some n => exact ⟨n, by simp only [numeralLength?, fits]; rfl, fractionLength?_pos fits⟩
  | @whole sign first digits signed digit nonzero numeric =>
    have counted := digitCount_append numeric back
    rw [List.append_assoc, List.cons_append, numeralLength?_eq signed digit nonzero,
      decimalLength?_eq signed digit nonzero]
    split
    · refine ⟨_, rfl, ?_⟩
      simp only [List.length_append, List.length_cons]
      omega
    · refine ⟨_, rfl, ?_⟩
      simp only [List.length_append, List.length_cons]
      omega
  | @decimal sign first digits places signed digit nonzero numeric placed =>
    have whole := digitCount_append numeric ('.' :: (places ++ back))
    have counted := digitCount_append placed back
    have point : digitCount ('.' :: (places ++ back)) = 0 := rfl
    have split : sign ++ first :: (digits ++ '.' :: places) ++ back =
        sign ++ first :: (digits ++ '.' :: (places ++ back)) := by simp
    rw [split, numeralLength?_eq signed digit nonzero, decimalLength?_eq signed digit nonzero, whole, point,
      Nat.add_zero, List.drop_left]
    refine ⟨_, rfl, ?_⟩
    simp only [List.length_append, List.length_cons]
    omega

theorem identifierLength?_sound {text : List Char} {n : Nat}
    (fits : identifierLength? text = some n) :
    ∃ front back, text = front ++ back ∧ front.length = n ∧ Identifier front := by
  unfold identifierLength? at fits
  split at fits
  · rename_i first rest
    split at fits
    · rename_i letter
      cases fits
      refine ⟨first :: rest.takeWhile isNameChar, rest.dropWhile isNameChar, ?_, ?_,
        .intro letter fun c member => List.mem_takeWhile_imp member⟩
      · rw [List.cons_append, List.takeWhile_append_dropWhile]
      · rw [List.length_cons, Nat.add_comm]
    · cases fits
  · cases fits

theorem identifierLength?_max {front : List Char} (identifier : Identifier front)
    (back : List Char) :
    ∃ n, identifierLength? (front ++ back) = some n ∧ front.length ≤ n := by
  cases identifier with
  | @intro first rest letter named =>
    refine ⟨_, by simp only [List.cons_append, identifierLength?, if_pos letter]; rfl, ?_⟩
    simp only [List.takeWhile_append_of_pos named, List.length_append, List.length_cons]
    omega

theorem length?_sound {pattern : Pattern} {text : List Char} {n : Nat}
    (fits : pattern.length? text = some n) :
    ∃ front back, text = front ++ back ∧ front.length = n ∧ pattern.Accepts front back := by
  cases pattern with
  | mark word kind =>
    simp only [length?] at fits
    split at fits
    · rename_i begins
      cases fits
      obtain ⟨back, rfl⟩ := List.isPrefixOf_iff_prefix.mp begins
      exact ⟨word.toList, back, rfl, String.length_toList, rfl⟩
    · cases fits
  | keyword word kind =>
    simp only [length?] at fits
    split at fits
    · rename_i begins
      cases fits
      simp only [Bool.and_eq_true] at begins
      obtain ⟨back, rfl⟩ := List.isPrefixOf_iff_prefix.mp begins.1
      have ended := begins.2
      rw [← String.length_toList, List.drop_left] at ended
      exact ⟨word.toList, back, rfl, String.length_toList, rfl, ended⟩
    · cases fits
  | numeral => exact numeralLength?_sound fits
  | identifier => exact identifierLength?_sound fits

theorem length?_max {pattern : Pattern} {front back : List Char}
    (accepts : pattern.Accepts front back) :
    ∃ n, pattern.length? (front ++ back) = some n ∧ front.length ≤ n := by
  cases pattern with
  | mark word kind =>
    obtain rfl := accepts
    have begins : word.toList.isPrefixOf (word.toList ++ back) = true :=
      List.isPrefixOf_iff_prefix.mpr (List.prefix_append _ _)
    exact ⟨word.length, by simp only [length?, begins, if_true],
      Nat.le_of_eq String.length_toList⟩
  | keyword word kind =>
    obtain ⟨rfl, ended⟩ := accepts
    have begins : word.toList.isPrefixOf (word.toList ++ back) = true :=
      List.isPrefixOf_iff_prefix.mpr (List.prefix_append _ _)
    have rest : (word.toList ++ back).drop word.length = back := by
      rw [← String.length_toList, List.drop_left]
    exact ⟨word.length, by simp only [length?, begins, rest, ended]; rfl,
      Nat.le_of_eq String.length_toList⟩
  | numeral => exact numeralLength?_max accepts back
  | identifier => exact identifierLength?_max accepts back

end Pattern

end LineLisp
