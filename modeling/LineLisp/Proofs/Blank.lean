import LineLisp.Proofs.Console
import LineLisp.Proofs.Parser.Prefix
import Mathlib.Data.List.DropRight
import Mathlib.Tactic.TFAE

/-! Blank lines.
A line is passed over if there is nothing on it for the lexer to find, which is when running
it would fail for want of an expression. So that failure is never shown, and no other one is
held back. -/
namespace LineLisp

namespace Text

def trimmed (line : String) : String :=
  String.ofList ((line.toList.dropWhile isBlank).rdropWhile isBlank)

theorem trimmed_eq_empty_iff (line : String) : trimmed line = "" ↔ isBlankLine line = true := by
  have emptied : trimmed line = "" ↔ (line.toList.dropWhile isBlank).rdropWhile isBlank = [] := by
    rw [trimmed, ← String.toList_inj, String.toList_ofList]
    rfl
  rw [emptied, List.rdropWhile_eq_nil_iff, isBlankLine, List.all_eq_true]
  constructor
  · intro behind c member
    rw [← List.takeWhile_append_dropWhile (p := isBlank) (l := line.toList)] at member
    rcases List.mem_append.mp member with front | rest
    · exact List.mem_takeWhile_imp front
    · exact behind c rest
  · intro all c member
    exact all c ((List.dropWhile_suffix isBlank).subset member)

end Text

theorem Environment.runLine_empty_iff (env : Environment) (line : String) :
    (env.runLine line).result = .error (.parse .emptyExpression) ↔ tokenize line = .ok [] := by
  constructor
  · intro empty
    cases read : tokenize line with
    | error err =>
      have failure := tokenize_eq_error.mp read
      unfold runLine at empty
      simp only [failure] at empty
      cases empty
    | ok tokens =>
      rw [runLine_eq env read, runTokens] at empty
      cases parsed : parse tokens with
      | error err =>
        simp only [parsed] at empty
        cases empty
        rw [(parse_empty_iff tokens).mp parsed]
      | ok expr =>
        simp only [parsed] at empty
        cases told : (env.evaluate expr).result with
        | ok value =>
          rw [told] at empty
          cases empty
        | error err =>
          rw [told] at empty
          cases empty
  · intro read
    rw [runLine_eq env read]
    rfl

theorem Text.prefix_of_append {front rest text : String}
    (begins : (front ++ rest).toList <+: text.toList) : front.toList <+: text.toList := by
  rw [String.toList_append] at begins
  exact (List.prefix_append _ _).trans begins

open Text (prefix_of_append)

/-- The message of every other error begins otherwise. -/
theorem ParseError.eq_empty_of_message {err : ParseError}
    (same : err.message = emptyExpression.message) : err = emptyExpression := by
  have begins : err.message.toList <+: emptyExpression.message.toList := by rw [same]
  cases err with
  | emptyExpression => rfl
  | unterminated => exact absurd (prefix_of_append begins) (by decide)
  | doubledOperator =>
    have first := prefix_of_append (prefix_of_append (prefix_of_append begins))
    exact absurd (prefix_of_append (prefix_of_append first)) (by decide)
  | _ =>
    have first := prefix_of_append (prefix_of_append begins)
    exact absurd (prefix_of_append first) (by decide)

theorem Error.eq_empty_of_message {err : Error}
    (same : err.message = (parse .emptyExpression).message) : err = parse .emptyExpression := by
  have begins : err.message.toList <+: (parse .emptyExpression).message.toList := by rw [same]
  cases err with
  | parse err =>
    have own : err.message = ParseError.emptyExpression.message :=
      (String.append_right_inj _).mp same
    rw [ParseError.eq_empty_of_message own]
  | lex => exact absurd (prefix_of_append begins) (by decide)
  | eval => exact absurd (prefix_of_append begins) (by decide)

namespace Console

theorem shown_ne_empty (value : Value) (env : Environment) :
    shown value env ≠ (Error.parse .emptyExpression).message := by
  intro same
  have begins : (shown value env).toList <+: (Error.parse .emptyExpression).message.toList := by
    rw [same]
  cases value with
  | procedure | void => exact absurd (prefix_of_append (prefix_of_append begins)) (by decide)
  | number | boolean | define => exact absurd (prefix_of_append begins) (by decide)

namespace Reply

def Silent (reply : Reply) : Prop :=
  reply.output = [] ∧ reply.failure = none

def Says (reply : Reply) (text : String) : Prop :=
  text ∈ reply.output ∨ reply.failure = some text

end Reply

theorem reply_silent_iff (env : Environment) (line : String) :
    (reply env line).Silent ↔ Text.isBlankLine line = true := by
  unfold Reply.Silent reply
  dsimp only
  split
  · rename_i blank
    exact iff_of_true ⟨rfl, rfl⟩ blank
  · rename_i filled
    refine iff_of_false ?_ filled
    split
    · simp
    · split <;> simp

theorem reply_never_empty (env : Environment) (line : String) :
    ¬(reply env line).Says (Error.parse .emptyExpression).message := by
  unfold Reply.Says reply
  dsimp only
  split
  · simp
  · rename_i filled
    have other (err : Error) (failed : (env.runLine line).result = .error err) :
        (Error.parse .emptyExpression).message ≠ err.message := by
      intro same
      rw [Error.eq_empty_of_message same.symm, env.runLine_empty_iff, tokenize_eq_nil_iff] at failed
      exact filled failed
    split
    · simp [(shown_ne_empty _ _).symm]
    · rename_i err failed
      split
      · simp [(other err failed).symm]
      · simp [other err failed]

/-- The lines that are passed over are those that hold no expression at all, and no others. -/
theorem reply_blank (line : String) :
    [Text.isBlankLine line = true, Text.trimmed line = "", tokenize line = .ok [],
      ∀ env : Environment, (env.runLine line).result = .error (.parse .emptyExpression),
      ∃ env : Environment, (env.runLine line).result = .error (.parse .emptyExpression)].TFAE ∧
    ∀ env : Environment,
      ((reply env line).Silent ↔
        (env.runLine line).result = .error (.parse .emptyExpression)) ∧
      (reply env line).env = (env.runLine line).env ∧
      ¬(reply env line).Says (Error.parse .emptyExpression).message := by
  constructor
  · tfae_have 1 ↔ 2 := (Text.trimmed_eq_empty_iff line).symm
    tfae_have 1 ↔ 3 := (tokenize_eq_nil_iff line).symm
    tfae_have 3 → 4 := fun read env => (env.runLine_empty_iff line).mpr read
    tfae_have 4 → 5 := fun empty => ⟨environment, empty environment⟩
    tfae_have 5 → 3 := fun ⟨env, empty⟩ => (env.runLine_empty_iff line).mp empty
    tfae_finish
  · intro env
    refine ⟨?_, reply_env env line, reply_never_empty env line⟩
    rw [reply_silent_iff, env.runLine_empty_iff, tokenize_eq_nil_iff]

end Console

end LineLisp
