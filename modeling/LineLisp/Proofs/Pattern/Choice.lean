import LineLisp.Proofs.Pattern.Alone
import LineLisp.Proofs.Pattern.Kind

/-! What the table chooses.
Whether a pattern is found depends on the first character of a text alone, and which one
is found does not depend on the order of the table but for keywords. -/
namespace LineLisp

namespace Pattern

def isInitial (c : Char) : Bool :=
  c.isAlpha || c.isDigit || "()+-*/=<>".toList.contains c

def headed : Pattern → Bool
  | mark word _ => word.toList.head?.any isInitial
  | keyword word _ => word.toList.head?.any isInitial
  | numeral => true
  | identifier => true

def digitless : Pattern → Bool
  | mark word _ => word.toList.all (!·.isDigit)
  | keyword word _ => word.toList.all (!·.isDigit)
  | numeral => true
  | identifier => true

def isMark (c : Char) : Pattern → Bool
  | mark word _ => word.toList == [c]
  | _ => false

variable {pattern rival : Pattern} {text front back : List Char} {c : Char} {n : Nat}

theorem isInitial_of_leading (leading : (Number.isSign c || c.isDigit) = true) :
    isInitial c = true := by
  simp only [Number.isSign, Bool.or_eq_true, beq_iff_eq] at leading
  rcases leading with (rfl | rfl) | digit
  · rfl
  · rfl
  · simp [isInitial, digit]

theorem initial_of_accepts (listed : pattern ∈ table) (accepts : pattern.Accepts front back) :
    ∃ c more, front = c :: more ∧ isInitial c = true := by
  have begun {word : String} (own : word.toList.head?.any isInitial = true)
      (same : front = word.toList) : ∃ c more, front = c :: more ∧ isInitial c = true := by
    rw [← same] at own
    cases front with
    | nil => cases own
    | cons c more => exact ⟨c, more, rfl, own⟩
  have shown : table.all headed = true := by decide
  have own := List.all_eq_true.mp shown pattern listed
  cases pattern with
  | mark word kind => exact begun own accepts
  | keyword word kind => exact begun own accepts.1
  | numeral =>
    obtain ⟨c, more, rfl, leading⟩ := Numeral.begins accepts
    exact ⟨c, more, rfl, isInitial_of_leading leading⟩
  | identifier =>
    obtain ⟨c, more, rfl, letter⟩ := Identifier.begins accepts
    exact ⟨c, more, rfl, by simp [isInitial, letter]⟩

/-- A digit is a numeral, a letter an identifier, and every other such character is a mark. -/
theorem accepts_of_initial (initial : isInitial c = true) (back : List Char) :
    ∃ pattern ∈ table, pattern.Accepts [c] back := by
  simp only [isInitial, Bool.or_eq_true] at initial
  rcases initial with (letter | digit) | marked
  · exact ⟨identifier, identifier_mem_table, .intro letter nofun⟩
  · refine ⟨numeral, numeral_mem_table, ?_⟩
    by_cases zero : c = '0'
    · rw [zero]
      exact Numeral.zero
    · exact Numeral.whole (.inl rfl) digit zero nofun
  · have covered : "()+-*/=<>".toList.all (fun c => table.any (isMark c)) = true := by decide
    have found := List.all_eq_true.mp covered c (List.contains_iff_mem.mp marked)
    obtain ⟨pattern, listed, own⟩ := List.any_eq_true.mp found
    cases pattern with
    | mark word kind => exact ⟨_, listed, (eq_of_beq own).symm⟩
    | _ => cases own

/-- No pattern is found exactly where the first character begins no token, if there is one. -/
theorem first?_eq_none_iff : first? text = none ↔ ∀ c ∈ text.head?, isInitial c = false := by
  constructor
  · intro unfit c first
    rw [Bool.eq_false_iff]
    intro initial
    cases text with
    | nil => cases first
    | cons d rest =>
      cases first
      obtain ⟨pattern, listed, accepts⟩ := accepts_of_initial initial rest
      obtain ⟨winner, n, found⟩ := exists_first? listed (List.singleton_append).symm accepts
      rw [unfit] at found
      cases found
  · intro outside
    cases found : first? text with
    | none => rfl
    | some taken =>
      obtain ⟨listed, front, back, rfl, -, accepts⟩ := first?_sound found
      obtain ⟨c, more, rfl, initial⟩ := initial_of_accepts listed accepts
      rw [outside c rfl] at initial
      cases initial

/-- A text that begins with a numeral is read as a number. -/
theorem eq_numeral_of_first? (fits : first? text = some (pattern, n))
    (split : text = front ++ back) (begun : Numeral front) : pattern = numeral := by
  obtain ⟨bound, -⟩ := first?_longest fits numeral_mem_table split begun
  obtain ⟨ranked, lexeme, rest, divided, rfl, accepts⟩ := first?_sound fits
  obtain ⟨more, rfl⟩ := List.prefix_of_prefix_length_le ⟨back, split.symm⟩ ⟨rest, divided.symm⟩ bound
  have plain {word : String} (none : word.toList.all (!·.isDigit) = true)
      (same : front ++ more = word.toList) : False :=
    begun.not_prefix none ⟨more, same⟩
  have shown : table.all digitless = true := by decide
  have own := List.all_eq_true.mp shown pattern ranked
  cases pattern with
  | mark word kind => exact (plain own accepts).elim
  | keyword word kind => exact (plain own accepts.1).elim
  | numeral => rfl
  | identifier =>
    obtain ⟨c, others, rfl, leading⟩ := begun.begins
    obtain ⟨d, remaining, same, letter⟩ := Identifier.begins accepts
    cases same
    rw [not_leading_of_isAlpha letter] at leading
    cases leading

/-- The first pattern of the table that fits takes the most that any pattern can. Another one takes
as much only where a keyword could be a name, and the keyword is before it. -/
theorem first?_greatest
    (takable : ∃ rival ∈ table, ∃ front back, text = front ++ back ∧ rival.Accepts front back) :
    ∃ before pattern behind lexeme rest, table = before ++ pattern :: behind ∧
      text = lexeme ++ rest ∧ first? text = some (pattern, lexeme.length) ∧
      pattern.Accepts lexeme rest ∧
      (∀ rival ∈ before, ∀ front back, text = front ++ back → ¬rival.Accepts front back) ∧
      (∀ rival ∈ table, ∀ front back, text = front ++ back → rival.Accepts front back →
        front.length ≤ lexeme.length) ∧
      ∀ rival ∈ before ++ behind, ∀ front back, text = front ++ back → rival.Accepts front back →
        front.length = lexeme.length → pattern.isKeyword = true ∧ rival = identifier := by
  obtain ⟨rival, among, front, back, split, accepts⟩ := takable
  obtain ⟨pattern, n, fits⟩ := exists_first? among split accepts
  obtain ⟨before, found, behind, ordered, taken, unfit⟩ := List.findSome?_eq_some_iff.mp fits
  obtain ⟨count, length, same⟩ := Option.map_eq_some_iff.mp taken
  cases same
  obtain ⟨lexeme, rest, divided, rfl, own⟩ := length?_sound length
  have refused : ∀ rival ∈ before, ∀ front back, text = front ++ back →
      ¬rival.Accepts front back :=
    fun rival earlier front back split => not_accepts_of_unfit (unfit rival earlier) split
  refine ⟨before, pattern, behind, lexeme, rest, ordered, divided, fits, own, refused, ?_, ?_⟩
  · intro rival listed front back split accepts
    exact (first?_longest fits listed split accepts).1
  · intro rival other front back split accepts tie
    have later : rival ∈ behind :=
      (List.mem_append.mp other).resolve_left fun earlier => refused rival earlier front back split accepts
    have listed : rival ∈ table := by
      rw [ordered]
      simp [later]
    rcases (first?_longest fits listed split accepts).2 tie with rfl | keyed
    · -- No pattern stands in the table twice.
      have ranked := table_ranked
      rw [ordered] at ranked
      have pair := List.rel_of_pairwise_cons (List.pairwise_append.mp ranked).2.1 later
      rw [not_outranks_self] at pair
      cases pair
    · exact keyed

/-- A keyword before a bracket could be a name there, and nothing longer is. -/
theorem first?_greatest_keyword :
    identifier.Accepts "define".toList "(é".toList ∧
    ∃ pattern, first? "define(é".toList = some (pattern, 6) ∧ pattern.isKeyword = true ∧
      ∀ rival ∈ table, ∀ front back, "define(é".toList = front ++ back →
        rival.Accepts front back → front.length ≤ 6 := by
  have taken : (first? "define(é".toList).map (fun taken => (taken.1.isKeyword, taken.2)) =
      some (true, 6) := by decide +kernel
  have letters : ("define".toList.tail).all isNameChar = true := by decide +kernel
  have named : identifier.Accepts "define".toList "(é".toList :=
    .intro rfl (List.all_eq_true.mp letters)
  have takable : ∃ rival ∈ table, ∃ front back,
      "define(é".toList = front ++ back ∧ rival.Accepts front back :=
    ⟨identifier, identifier_mem_table, "define".toList, "(é".toList, rfl, named⟩
  obtain ⟨before, pattern, behind, lexeme, rest, -, -, fits, -, -, greatest, -⟩ :=
    first?_greatest takable
  simp only [fits, Option.map_some, Option.some.injEq, Prod.mk.injEq] at taken
  obtain ⟨keyed, length⟩ := taken
  rw [length] at fits greatest
  exact ⟨named, pattern, fits, keyed, greatest⟩

end Pattern

end LineLisp
