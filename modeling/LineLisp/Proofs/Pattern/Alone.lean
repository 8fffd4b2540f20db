import LineLisp.Proofs.Pattern.Longest

/-! Lexemes on their own.
What a pattern took where nothing but a blank, a visible character or the end of
the text follows is taken by the same pattern when it stands alone, when it
stands before a blank, and when the text is cut off anywhere behind it. -/
namespace LineLisp

namespace Pattern

def printed : Pattern → Bool
  | mark word _ => word.toList.all Text.isVisible
  | keyword word _ => word.toList.all Text.isVisible
  | numeral => true
  | identifier => true

theorem isVisible_of_accepts {pattern : Pattern} (listed : pattern ∈ table) {front back : List Char}
    (accepts : pattern.Accepts front back) {c : Char} (member : c ∈ front) :
    Text.isVisible c = true := by
  have shown : table.all printed = true := by decide
  have own := List.all_eq_true.mp shown pattern listed
  cases pattern with
  | mark word kind =>
    obtain rfl := accepts
    exact List.all_eq_true.mp own c member
  | keyword word kind =>
    obtain ⟨rfl, -⟩ := accepts
    exact List.all_eq_true.mp own c member
  | numeral => exact Numeral.isVisible accepts member
  | identifier => exact Text.isVisible_of_isNameChar (Identifier.isNameChar accepts member)

theorem first?_sound {text : List Char} {pattern : Pattern} {n : Nat}
    (fits : first? text = some (pattern, n)) : pattern ∈ table ∧
      ∃ front back, text = front ++ back ∧ front.length = n ∧ pattern.Accepts front back := by
  obtain ⟨found, listed, taken⟩ := List.exists_of_findSome?_eq_some fits
  obtain ⟨count, length, same⟩ := Option.map_eq_some_iff.mp taken
  cases same
  exact ⟨listed, length?_sound length⟩

theorem first?_accepts {lexeme rest : List Char} {pattern : Pattern}
    (fits : first? (lexeme ++ rest) = some (pattern, lexeme.length)) :
    pattern ∈ table ∧ pattern.Accepts lexeme rest := by
  obtain ⟨listed, front, back, split, length, accepts⟩ := first?_sound fits
  obtain ⟨rfl, rfl⟩ := List.append_inj split length.symm
  exact ⟨listed, accepts⟩

def Parted (rest : List Char) : Prop :=
  ∀ c ∈ rest.head?, Text.isBlank c = true

def Followed (rest : List Char) : Prop :=
  ∀ c ∈ rest.head?, Text.isBlank c = true ∨ Text.isVisible c = true

theorem Parted.atWordEnd {rest : List Char} (parted : Parted rest) : Text.atWordEnd rest = true := by
  cases rest with
  | nil => rfl
  | cons c more => simp [Text.atWordEnd, Text.isWord_of_isBlank (parted c rfl)]

theorem Accepts.before {pattern : Pattern} {front back rest : List Char}
    (accepts : pattern.Accepts front back) (ended : Text.atWordEnd rest = true) :
    pattern.Accepts front rest := by
  cases pattern with
  | keyword word kind => exact ⟨accepts.1, ended⟩
  | _ => exact accepts

/-- A lexeme goes to its pattern before a blank, unless it is a name like a keyword. -/
theorem first?_of_accepts {pattern : Pattern} {lexeme rest : List Char} (listed : pattern ∈ table)
    (accepts : pattern.Accepts lexeme rest) (parted : Parted rest)
    (unlike : pattern = identifier → ∀ rival ∈ table, rival.isKeyword = true →
      ¬rival.Accepts lexeme rest) : first? (lexeme ++ rest) = some (pattern, lexeme.length) := by
  obtain ⟨winner, n, fits⟩ := exists_first? listed rfl accepts
  obtain ⟨bound, tied⟩ := first?_longest fits listed rfl accepts
  obtain ⟨ranked, front, back, split, rfl, taken⟩ := first?_sound fits
  -- The winner takes no blank, so that it takes nothing behind the lexeme.
  obtain ⟨more, rfl⟩ := List.prefix_of_prefix_length_le (List.prefix_append lexeme rest)
    ⟨back, split.symm⟩ bound
  rw [fits]
  rw [List.append_assoc, List.append_cancel_left_eq] at split
  cases more with
  | cons c others =>
    have blank := parted c (by simp [split])
    have visible := isVisible_of_accepts ranked taken (c := c) (by simp)
    rw [Text.isVisible_of_isBlank blank] at visible
    cases visible
  | nil =>
    rw [List.append_nil] at taken tied ⊢
    rw [List.nil_append] at split
    rcases tied rfl with rfl | ⟨keyed, named⟩
    · rfl
    · exact absurd (split ▸ taken) (unlike named winner ranked keyed)

theorem first?_whole {pattern : Pattern} {lexeme : List Char} (listed : pattern ∈ table)
    (accepts : pattern.Accepts lexeme []) (unlike : pattern = identifier → ∀ rival ∈ table,
      rival.isKeyword = true → ¬rival.Accepts lexeme []) :
    first? lexeme = some (pattern, lexeme.length) := by
  have fits := first?_of_accepts listed accepts nofun unlike
  rwa [List.append_nil] at fits

/-- Where another token may follow, a name that was read is no keyword. -/
theorem not_keyword_of_first? {lexeme rest : List Char} {rival : Pattern}
    (fits : first? (lexeme ++ rest) = some (identifier, lexeme.length)) (followed : Followed rest)
    (listed : rival ∈ table) (keyed : rival.isKeyword = true) : ¬rival.Accepts lexeme [] := by
  intro spelled
  obtain ⟨named, accepts⟩ := first?_accepts fits
  -- The keyword lost, so that the word goes on behind it; but then the name would be longer.
  have inside : Text.atWordEnd rest = false := by
    rw [Bool.eq_false_iff]
    intro ended
    rcases (first?_longest fits listed rfl (spelled.before ended)).2 rfl with rfl | ⟨other, -⟩
    · cases keyed
    · cases other
  cases rest with
  | nil => cases inside
  | cons c more =>
    have word : Text.isWord c = true := by simpa [Text.atWordEnd] using inside
    have held : isNameChar c = true := by
      rcases followed c rfl with blank | visible
      · rw [Text.isWord_of_isBlank blank] at word
        cases word
      · exact Text.isNameChar_of_isWord visible word
    have longer : identifier.Accepts (lexeme ++ [c]) more := by
      cases accepts with
      | intro letter others =>
        refine .intro letter fun d member => ?_
        rcases List.mem_append.mp member with inside | last
        · exact others d inside
        · rw [List.mem_singleton.mp last]
          exact held
    have bound := (first?_longest fits named (by simp) longer).1
    rw [List.length_append, List.length_singleton] at bound
    omega

/-- A token is read in the same way when it is cut out of its line. -/
theorem first?_alone {lexeme rest : List Char} {pattern : Pattern}
    (fits : first? (lexeme ++ rest) = some (pattern, lexeme.length)) (followed : Followed rest) :
    first? lexeme = some (pattern, lexeme.length) := by
  obtain ⟨listed, accepts⟩ := first?_accepts fits
  refine first?_whole listed (accepts.before rfl) ?_
  rintro rfl rival ranked keyed
  exact not_keyword_of_first? fits followed ranked keyed

theorem first?_parted {lexeme rest : List Char} {pattern : Pattern}
    (alone : first? lexeme = some (pattern, lexeme.length)) (parted : Parted rest) :
    first? (lexeme ++ rest) = some (pattern, lexeme.length) := by
  have fits : first? (lexeme ++ []) = some (pattern, lexeme.length) := by rwa [List.append_nil]
  obtain ⟨listed, accepts⟩ := first?_accepts fits
  refine first?_of_accepts listed (accepts.before parted.atWordEnd) parted ?_
  rintro rfl rival ranked keyed spelled
  exact not_keyword_of_first? fits nofun ranked keyed (spelled.before rfl)

def namelike : Pattern → Bool
  | keyword word _ => identifierLength? word.toList == some word.toList.length
  | _ => true

theorem identifier_of_keyword {pattern : Pattern} {front back : List Char} (listed : pattern ∈ table)
    (keyed : pattern.isKeyword = true) (accepts : pattern.Accepts front back) : Identifier front := by
  have named : table.all namelike = true := by decide
  have own := List.all_eq_true.mp named pattern listed
  cases pattern with
  | keyword word kind =>
    obtain ⟨rfl, -⟩ := accepts
    obtain ⟨front, back, split, length, identifier⟩ := identifierLength?_sound (eq_of_beq own)
    obtain rfl : back = [] := by
      rw [split, List.length_append] at length
      exact List.eq_nil_of_length_eq_zero (by omega)
    rwa [split, List.append_nil]
  | _ => cases keyed

/-- What is taken before one text might be taken before any other, if only as a name. -/
theorem accepts_before_any {pattern : Pattern} {front back : List Char} (listed : pattern ∈ table)
    (accepts : pattern.Accepts front back) (rest : List Char) :
    ∃ rival ∈ table, rival.Accepts front rest := by
  cases pattern with
  | keyword word kind =>
    exact ⟨identifier, identifier_mem_table, identifier_of_keyword listed rfl accepts⟩
  | _ => exact ⟨_, listed, accepts⟩

/-- A token is read in the same way when the line is cut off somewhere behind it. -/
theorem first?_cut {lexeme rest more : List Char} {pattern : Pattern}
    (fits : first? (lexeme ++ (rest ++ more)) = some (pattern, lexeme.length))
    (followed : Followed (rest ++ more)) :
    first? (lexeme ++ rest) = some (pattern, lexeme.length) := by
  cases rest with
  | nil =>
    rw [List.append_nil]
    exact first?_alone fits followed
  | cons c others =>
    obtain ⟨listed, accepts⟩ := first?_accepts fits
    have own : pattern.Accepts lexeme (c :: others) := by
      cases pattern <;> exact accepts
    obtain ⟨winner, n, found⟩ := exists_first? listed rfl own
    obtain ⟨bound, tied⟩ := first?_longest found listed rfl own
    obtain ⟨ranked, front, back, split, rfl, taken⟩ := first?_sound found
    rw [found]
    have whole : lexeme ++ (c :: others ++ more) = front ++ (back ++ more) := by
      rw [← List.append_assoc, split, List.append_assoc]
    cases back with
    | nil =>
      -- The winner takes all that is left, which is more than could be taken before the cut.
      obtain ⟨rival, among, takable⟩ := accepts_before_any ranked taken ([] ++ more)
      have long := (first?_longest fits among whole takable).1
      rw [List.append_nil] at split
      rw [← split, List.length_append, List.length_cons] at long
      omega
    | cons d remaining =>
      have takable : winner.Accepts front (d :: remaining ++ more) := by
        cases winner <;> exact taken
      obtain ⟨short, rivals⟩ := first?_longest fits ranked whole takable
      have length := Nat.le_antisymm short bound
      rcases tied length.symm with rfl | ⟨keyed, rfl⟩
      · rw [length]
      · rcases rivals length with rfl | ⟨other, -⟩
        · cases keyed
        · cases other

end Pattern

end LineLisp
