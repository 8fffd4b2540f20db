import LineLisp.Proofs.Pattern.Language

/-! The first match is the longest match.
Wherever two patterns of the table fit, the later one takes no more, and as much
only if it reads a keyword as a name. -/
namespace LineLisp

namespace Pattern

def isKeyword : Pattern → Bool
  | keyword _ _ => true
  | _ => false

def startsApart (word : String) (kind : Char → Bool) : Bool :=
  word.toList.head?.any (!kind ·)

def outranks (first second : Pattern) : Bool :=
  match first, second with
  | mark a _, mark b _ => !a.toList.isPrefixOf b.toList
  | mark a _, keyword b _ => !a.toList.isPrefixOf b.toList
  | keyword a _, mark b _ => !a.toList.isPrefixOf b.toList
  | keyword a _, keyword b _ => !a.toList.isPrefixOf b.toList
  | mark a _, numeral => startsApart a fun c => Number.isSign c || c.isDigit
  | mark a _, identifier => startsApart a Char.isAlpha
  | numeral, mark b _ => b.toList.all (!·.isDigit)
  | numeral, keyword b _ => b.toList.all (!·.isDigit)
  | numeral, identifier => true
  | keyword _ _, identifier => true
  | _, _ => false

theorem numeral_mem_table : numeral ∈ table := by
  simp [table]

theorem identifier_mem_table : identifier ∈ table := by
  simp [table]

theorem table_ranked : table.Pairwise (outranks · · = true) := by
  decide

theorem length_lt_of_not_prefix {front rest other back : List Char}
    (same : front ++ rest = other ++ back) (apart : ¬front <+: other) :
    other.length < front.length := by
  by_contra long
  exact apart (List.prefix_of_prefix_length_le ⟨rest, same⟩ (List.prefix_append other back) (by omega))

theorem not_head_of_startsApart {word : String} {kind : Char → Bool} {rest : List Char} {c : Char}
    (apart : startsApart word kind = true) (begins : word.toList = c :: rest) : kind c = false := by
  simpa [startsApart, begins] using apart

theorem not_prefix_of_outranks {first second : Pattern} {front rest other back : List Char}
    (ranked : outranks first second = true)
    (unlike : ¬(first.isKeyword = true ∧ second = identifier))
    (taken : first.Accepts front rest) (takable : second.Accepts other back) : ¬front <+: other := by
  have fixed {a b : String} (apart : (!a.toList.isPrefixOf b.toList) = true)
      (begins : front = a.toList) (starts : other = b.toList) : ¬front <+: other := by
    rw [begins, starts]
    intro same
    rw [List.isPrefixOf_iff_prefix.mpr same] at apart
    cases apart
  have digitless {b : String} (none : b.toList.all (!·.isDigit) = true) (numeral : Numeral front)
      (starts : other = b.toList) : ¬front <+: other := by
    rw [starts]
    exact numeral.not_prefix none
  have headed {a : String} {kind : Char → Bool} (apart : startsApart a kind = true)
      (begins : front = a.toList) (starts : ∃ c more, other = c :: more ∧ kind c = true) :
      ¬front <+: other := by
    rintro ⟨others, split⟩
    obtain ⟨c, more, rfl, within⟩ := starts
    cases letters : a.toList with
    | nil => simp [startsApart, letters] at apart
    | cons d rest =>
      rw [begins, letters, List.cons_append, List.cons.injEq] at split
      have outside := not_head_of_startsApart apart letters
      rw [split.1, within] at outside
      cases outside
  cases first with
  | mark a kind =>
    cases second with
    | mark b kind => exact fixed ranked taken takable
    | keyword b kind => exact fixed ranked taken takable.1
    | numeral => exact headed ranked taken takable.begins
    | identifier => exact headed ranked taken takable.begins
  | keyword a kind =>
    cases second with
    | mark b kind => exact fixed ranked taken.1 takable
    | keyword b kind => exact fixed ranked taken.1 takable.1
    | numeral => cases ranked
    | identifier => exact absurd ⟨rfl, rfl⟩ unlike
  | numeral =>
    cases second with
    | mark b kind => exact digitless ranked taken takable
    | keyword b kind => exact digitless ranked taken takable.1
    | numeral => cases ranked
    | identifier =>
      obtain ⟨c, rest, rfl, leading⟩ := Numeral.begins taken
      obtain ⟨d, more, rfl, letter⟩ := Identifier.begins takable
      rw [List.cons_prefix_cons]
      rintro ⟨rfl, -⟩
      rw [not_leading_of_isAlpha letter] at leading
      cases leading
  | identifier => cases ranked

/-- Nothing that a name may hold follows a keyword. -/
theorem length_le_of_keyword {word : String} {kind : TokenKind} {front rest other back : List Char}
    (same : front ++ rest = other ++ back) (taken : (keyword word kind).Accepts front rest)
    (named : Identifier other) : other.length ≤ front.length := by
  by_contra long
  obtain ⟨more, rfl⟩ := List.prefix_of_prefix_length_le ⟨rest, same⟩ (List.prefix_append other back)
    (by omega)
  rw [List.append_assoc, List.append_cancel_left_eq] at same
  cases more with
  | nil => simp at long
  | cons c others =>
    have word := Text.isWord_of_isNameChar (named.isNameChar (c := c) (by simp))
    have ended := taken.2
    simp [same, Text.atWordEnd, word] at ended

theorem length_le_of_outranks {first second : Pattern} {front rest other back : List Char}
    (ranked : outranks first second = true) (same : front ++ rest = other ++ back)
    (taken : first.Accepts front rest) (takable : second.Accepts other back) :
    other.length ≤ front.length ∧
      (other.length = front.length → first.isKeyword = true ∧ second = identifier) := by
  by_cases tied : first.isKeyword = true ∧ second = identifier
  · obtain ⟨keyed, rfl⟩ := tied
    cases first with
    | keyword word kind => exact ⟨length_le_of_keyword same taken takable, fun _ => ⟨rfl, rfl⟩⟩
    | _ => cases keyed
  · have less := length_lt_of_not_prefix same (not_prefix_of_outranks ranked tied taken takable)
    exact ⟨by omega, by omega⟩

theorem not_outranks_self (pattern : Pattern) : outranks pattern pattern = false := by
  cases pattern <;> simp [outranks]

theorem not_accepts_of_unfit {text front back : List Char} {rival : Pattern}
    (unfit : (rival.length? text).map (rival, ·) = none) (split : text = front ++ back) :
    ¬rival.Accepts front back := by
  intro takable
  obtain ⟨n, fits, -⟩ := length?_max takable
  rw [split, fits] at unfit
  cases unfit

/-- Where a pattern may take something one is found. -/
theorem exists_first? {text front back : List Char} {rival : Pattern} (listed : rival ∈ table)
    (split : text = front ++ back) (takable : rival.Accepts front back) :
    ∃ pattern n, first? text = some (pattern, n) := by
  cases found : first? text with
  | none =>
    have unfit := List.findSome?_eq_none_iff.mp found rival listed
    exact absurd takable (not_accepts_of_unfit unfit split)
  | some taken => exact ⟨taken.1, taken.2, rfl⟩

/-- The first pattern that fits takes the most that any can, and only a name can be as long as it,
namely where it is a keyword. -/
theorem first?_longest {text other back : List Char} {pattern rival : Pattern} {n : Nat}
    (fits : first? text = some (pattern, n)) (listed : rival ∈ table)
    (split : text = other ++ back) (takable : rival.Accepts other back) :
    other.length ≤ n ∧
      (other.length = n → rival = pattern ∨ (pattern.isKeyword = true ∧ rival = identifier)) := by
  obtain ⟨before, found, behind, ordered, taken, unfit⟩ := List.findSome?_eq_some_iff.mp fits
  -- No rival before the winner fits, and those behind it are outranked.
  obtain ⟨count, length, same⟩ := Option.map_eq_some_iff.mp taken
  cases same
  have ranked := table_ranked
  rw [ordered] at listed ranked
  rcases List.mem_append.mp listed with earlier | rest
  · exact absurd takable (not_accepts_of_unfit (unfit rival earlier) split)
  · rcases List.mem_cons.mp rest with rfl | later
    · obtain ⟨m, rivalFits, most⟩ := length?_max takable
      rw [← split, length] at rivalFits
      cases rivalFits
      exact ⟨most, fun _ => .inl rfl⟩
    · have pair := List.rel_of_pairwise_cons (List.pairwise_append.mp ranked).2.1 later
      obtain ⟨front, remaining, divided, rfl, accepted⟩ := length?_sound length
      have bounds := length_le_of_outranks pair (divided.symm.trans split) accepted takable
      exact ⟨bounds.1, fun tie => .inr (bounds.2 tie)⟩

end Pattern

end LineLisp
