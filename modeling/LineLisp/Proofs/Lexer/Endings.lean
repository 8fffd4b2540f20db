import LineLisp.Proofs.Lexer.Pieces
import LineLisp.Proofs.Pattern.Choice

/-! The ways in which the reading of a token ends.
What stands behind the blanks of a text, and the token before it, tell whether the text is
at its end, cannot be read or begins with a number that is glued to an operator. -/
namespace LineLisp

structure Glued (previous : Option Token) (gap rest : List Char) : Prop where
  close : gap = []
  number : ∃ front back, rest = front ++ back ∧ Numeral front
  behind : ∃ before op, previous = some before ∧ before.kind = .operator op ∧
    op ∈ [.plus, .minus, .times, .divide]

theorem Glued.initial {previous : Option Token} {gap rest : List Char}
    (glued : Glued previous gap rest) : ∃ c more, rest = c :: more ∧ Pattern.isInitial c = true := by
  obtain ⟨front, back, rfl, numeral⟩ := glued.number
  obtain ⟨c, more, rfl, leading⟩ := numeral.begins
  exact ⟨c, more ++ back, rfl, Pattern.isInitial_of_leading leading⟩

inductive Ending (rest : List Char) (glued : Prop) : Except LexError (Token × String) → Prop
  | ended {token after} (blank : rest = []) (last : token.kind = .endOfLine) :
    Ending rest glued (.ok (token, after))
  | unfit {remainder span c more} (split : rest = c :: more)
    (outside : Pattern.isInitial c = false) : Ending rest glued (.error (.invalidToken remainder span))
  | glued {lexeme span c more} (split : rest = c :: more) (initial : Pattern.isInitial c = true)
    (close : glued) : Ending rest glued (.error (.gluedNumber lexeme span))
  | token {token after c more} (split : rest = c :: more) (initial : Pattern.isInitial c = true)
    (apart : ¬glued) (inner : token.kind ≠ .endOfLine) : Ending rest glued (.ok (token, after))

theorem Ending.told {rest : List Char} {glued : Prop} {result : Except LexError (Token × String)}
    (ending : Ending rest glued result)
    (begun : glued → ∃ c more, rest = c :: more ∧ Pattern.isInitial c = true) :
    ((∃ token after, result = .ok (token, after) ∧ token.kind = .endOfLine) ↔ rest = []) ∧
    ((∃ remainder span, result = .error (.invalidToken remainder span)) ↔
      ∃ c more, rest = c :: more ∧ Pattern.isInitial c = false) ∧
    ((∃ lexeme span, result = .error (.gluedNumber lexeme span)) ↔ glued) ∧
    ((∃ token after, result = .ok (token, after) ∧ token.kind ≠ .endOfLine) ↔
      (∃ c more, rest = c :: more ∧ Pattern.isInitial c = true) ∧ ¬glued) := by
  cases ending with
  | ended blank last =>
    have apart : ¬glued := by simpa [blank] using begun
    simp [blank, last, apart]
  | unfit split outside =>
    have apart : ¬glued := by simpa [split, outside] using begun
    simp [split, outside, apart]
  | glued split initial close => simp [split, initial, close]
  | token split initial apart inner => simp [split, initial, apart, inner]

theorem isArithmetic_iff (kind : TokenKind) : kind.isArithmetic = true ↔
    ∃ op, kind = .operator op ∧ op ∈ [.plus, .minus, .times, .divide] := by
  cases kind with
  | operator op => cases op <;> simp [TokenKind.isArithmetic, Operator.isArithmetic]
  | _ => simp [TokenKind.isArithmetic]

namespace Lexer

variable {lexeme rest gap text : List Char} {pattern : Pattern} {previous : Option Token}

theorem number?_iff (fits : Pattern.first? (lexeme ++ rest) = some (pattern, lexeme.length))
    (column : Nat) : (tokenAt column pattern lexeme).number? ≠ none ↔
      ∃ front back, lexeme ++ rest = front ++ back ∧ Numeral front := by
  obtain ⟨listed, accepts⟩ := Pattern.first?_accepts fits
  constructor
  · intro number
    have spells := Pattern.kind_spells listed accepts
    cases kind : pattern.kind lexeme with
    | number value =>
      rw [kind] at spells
      exact ⟨lexeme, rest, rfl, spells.1⟩
    | _ => simp [tokenAt, Token.number?, kind] at number
  · rintro ⟨front, back, split, numeral⟩
    rw [Pattern.eq_numeral_of_first? fits split numeral]
    exact Option.some_ne_none _

theorem initial_of_fits (fits : Pattern.first? (lexeme ++ rest) = some (pattern, lexeme.length)) :
    ∃ c more, lexeme ++ rest = c :: more ∧ Pattern.isInitial c = true := by
  obtain ⟨listed, accepts⟩ := Pattern.first?_accepts fits
  obtain ⟨c, more, rfl, initial⟩ := Pattern.initial_of_accepts listed accepts
  exact ⟨c, more ++ rest, rfl, initial⟩

theorem dropWhile_blank (blank : Blank gap) (begins : Begins text) :
    (gap ++ text).dropWhile Text.isBlank = text := by
  rw [List.dropWhile_append_of_pos blank]
  cases text with
  | nil => rfl
  | cons c more => simp [begins c rfl]

theorem Step.ending {lexer after : Lexer} {result : Except LexError Token}
    (step : Step lexer result after) : Ending (lexer.rest.dropWhile Text.isBlank)
      (Glued lexer.previous (lexer.rest.takeWhile Text.isBlank)
        (lexer.rest.dropWhile Text.isBlank)) (result.map (·, after.remainder)) := by
  cases step with
  | @ended gap column previous blank =>
    have all : gap.dropWhile Text.isBlank = [] := List.dropWhile_eq_nil_iff.mpr blank
    exact .ended all rfl
  | @unfit gap rest column previous blank begins filled unfit =>
    rw [takeWhile_blank blank begins, dropWhile_blank blank begins]
    obtain ⟨c, more, rfl⟩ := List.exists_cons_of_ne_nil filled
    exact .unfit rfl (Pattern.first?_eq_none_iff.mp unfit c rfl)
  | @glued lexeme rest column before pattern fits number arithmetic =>
    have close : Blank [] := List.forall_mem_nil _
    have begins := (begins_of_fits fits).2
    have skipped := dropWhile_blank close begins
    have taken := takeWhile_blank close begins
    rw [List.nil_append] at skipped taken
    rw [skipped, taken]
    obtain ⟨c, more, split, initial⟩ := initial_of_fits fits
    obtain ⟨op, kind, listed⟩ := (isArithmetic_iff _).mp arithmetic
    exact .glued split initial ⟨rfl, (number?_iff fits _).mp number, before, op, rfl, kind, listed⟩
  | @token gap lexeme rest column previous pattern blank fits apart =>
    have begins := (begins_of_fits fits).2
    rw [takeWhile_blank blank begins, dropWhile_blank blank begins]
    obtain ⟨c, more, split, initial⟩ := initial_of_fits fits
    refine .token split initial ?_ (kind_ne_endOfLine fits)
    rintro ⟨close, numeral, before, op, rfl, kind, listed⟩
    have arithmetic := (isArithmetic_iff _).mpr ⟨op, kind, listed⟩
    rw [apart ((number?_iff fits _).mpr numeral) close before rfl] at arithmetic
    cases arithmetic

end Lexer

open Lexer

theorem nextToken_ending (text : String) (previous : Option Token) :
    Ending (text.toList.dropWhile Text.isBlank)
      (Glued previous (text.toList.takeWhile Text.isBlank) (text.toList.dropWhile Text.isBlank))
      (nextToken text previous) := by
  have step := next_step ⟨text.toList, 0, previous⟩
  generalize (⟨text.toList, 0, previous⟩ : Lexer).next = pair at step
  obtain ⟨result, after⟩ := pair
  have ending := step.ending
  cases result with
  | ok token => rwa [step.nextToken_eq]
  | error err => rwa [step.nextToken_failed]

/-- What is behind the blanks of a text tells how the reading of a token from it ends. A numeral is
never refused as one that no number is read from. -/
theorem nextToken_endings (text : String) (previous : Option Token) :
    let gap := text.toList.takeWhile Text.isBlank
    let rest := text.toList.dropWhile Text.isBlank
    ((∃ token after, nextToken text previous = .ok (token, after) ∧ token.kind = .endOfLine) ↔
      rest = []) ∧
    ((∃ remainder span, nextToken text previous = .error (.invalidToken remainder span)) ↔
      ∃ c more, rest = c :: more ∧ Pattern.isInitial c = false) ∧
    ((∃ lexeme span, nextToken text previous = .error (.gluedNumber lexeme span)) ↔
      Glued previous gap rest) ∧
    ((∃ token after, nextToken text previous = .ok (token, after) ∧ token.kind ≠ .endOfLine) ↔
      (∃ c more, rest = c :: more ∧ Pattern.isInitial c = true) ∧ ¬Glued previous gap rest) ∧
    ∀ count, Pattern.first? rest = some (.numeral, count) →
      ∃ value, Number.read? (rest.take count) = some value := by
  intro gap rest
  obtain ⟨ended, unfit, glued, token⟩ := (nextToken_ending text previous).told Glued.initial
  refine ⟨ended, unfit, glued, token, fun count fits => ?_⟩
  obtain ⟨-, front, back, split, rfl, numeral⟩ := Pattern.first?_sound fits
  rw [split, List.take_left]
  exact ⟨_, Number.read?_numeral numeral⟩

/-- A signed number right behind a plus. -/
theorem nextToken_endings_glued :
    (∃ lexeme span, nextToken "-0.5)" (some ⟨.operator .plus, "+", .columns 0 1⟩) =
      .error (.gluedNumber lexeme span)) ∧
    ∃ value, Number.read? "-0.5".toList = some value := by
  obtain ⟨-, -, glued, -, numerals⟩ :=
    nextToken_endings "-0.5)" (some ⟨.operator .plus, "+", .columns 0 1⟩)
  have numeral : Numeral (['-'] ++ '0' :: '.' :: ['5']) :=
    .fraction (.inr (.inr rfl)) nofun (List.forall_mem_singleton.mpr rfl)
  exact ⟨glued.mpr ⟨rfl, ⟨_, [')'], rfl, numeral⟩, _, .plus, rfl, rfl, by simp⟩, numerals 4 rfl⟩

end LineLisp
