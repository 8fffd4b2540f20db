import LineLisp.Proofs.Number
import LineLisp.Proofs.Number.Printer
import LineLisp.Proofs.Layout
import LineLisp.Proofs.Log

/-! Numbers that are typed back.
A line is one number if and only if it is a numeral. The text of a finite number is one, up to that
of the negative zero, and a session that gets it answers with the number. -/
namespace LineLisp

def IsNumber (line : String) (value : Float) : Prop :=
  ∃ span, tokenize line = .ok [⟨.number value, line, span⟩]

theorem isNumber_iff {line : String} {value : Float} :
    IsNumber line value ↔ Numeral line.toList ∧ value = Number.ofNumeral line.toList := by
  constructor
  · rintro ⟨span, read⟩
    exact ((tokenize_iff.mp read).alone _ (List.mem_singleton_self _)).spells
  · rintro ⟨numeral, rfl⟩
    have accepts : Pattern.numeral.Accepts line.toList [] := numeral
    refine ⟨_, tokenize_alone (Pattern.first?_whole Pattern.numeral_mem_table accepts ?_)⟩
    intro named
    cases named

theorem Printed.isNumber {line : String} (printed : Printed line.toList) (other : line ≠ "-0") :
    IsNumber line (Number.ofNumeral line.toList) := by
  have unlike : line.toList ≠ ['-', '0'] := fun same => other (String.toList_injective same)
  exact isNumber_iff.mpr ⟨printed.numeral unlike, rfl⟩

theorem Number.negative_of_shortest {x : Float} (finite : x.isFinite = true)
    (text : shortest x = "-0") : x = -0.0 := by
  obtain ⟨negative, rank, shape⟩ := shape_of_isFinite finite
  have zero : ofNumeral "-0".toList = -0.0 := by decide +kernel
  rw [← ofNumeral_shortest shape, text, zero]

namespace Environment

theorem evaluate_number {env : Environment} (more : env.room ≠ 0) (value : Float) (span : Span) :
    (env.evaluate (.number value span)).result = .ok (.number value) ∧
      (env.evaluate (.number value span)).env = env := by
  rw [evaluate_rule more]
  exact ⟨rfl, rfl⟩

theorem runLine_number {env : Environment} (more : env.room ≠ 0) {line : String} {value : Float}
    (number : IsNumber line value) :
    (env.runLine line).result = .ok (.number value) ∧ (env.runLine line).env = env := by
  obtain ⟨span, read⟩ := number
  have parsed : parse [⟨.number value, line, span⟩] = .ok (.number value span) := rfl
  obtain ⟨result, same⟩ := evaluate_number more value span
  rw [env.runLine_of_parse read parsed]
  exact ⟨congrArg (Except.mapError Error.eval) result, same⟩

/-- Positional notation other than that of the negative zero is one number, as are numerals and no
other lines. A finite number is printed in positional notation, and where there is room for an
evaluation, the number comes back from its text and nothing is changed. -/
theorem runLine_retyped :
    (∀ line : String, Printed line.toList → line ≠ "-0" → ∃ value, IsNumber line value) ∧
    (∀ line : String, (∃ value, IsNumber line value) ↔ Numeral line.toList) ∧
    (∀ x : Float, x.isFinite = true → Printed (Value.number x).text.toList) ∧
    ∀ x : Float, x.isFinite = true → x ≠ -0.0 → ∀ env : Environment,
      env.nesting < env.config.maxEvalDepth →
        (env.runLine (Value.number x).text).result = .ok (.number x) ∧
          (env.runLine (Value.number x).text).env = env := by
  have printed {x : Float} (finite : x.isFinite = true) :
      Printed (Number.shortest x).toList := by
    obtain ⟨negative, rank, shape⟩ := Number.shape_of_isFinite finite
    exact Number.printed_shortest shape
  refine ⟨fun line shown other => ⟨_, shown.isNumber other⟩, fun line => ?_,
    fun x finite => printed finite, fun x finite other env free => ?_⟩
  · simp only [isNumber_iff, exists_and_left, exists_eq, and_true]
  · obtain ⟨negative, rank, shape⟩ := Number.shape_of_isFinite finite
    have number : IsNumber (Number.shortest x) x := by
      have own := (printed finite).isNumber fun same =>
        other (Number.negative_of_shortest finite same)
      rwa [Number.ofNumeral_shortest shape] at own
    exact runLine_number (Nat.sub_ne_zero_of_lt free) number

/-- A line with a number below zero, in a new session. -/
theorem runLine_retyped_negative :
    (Value.number (-2.5)).text = "-2.5" ∧
      ((withConfig {}).runLine (Value.number (-2.5)).text).result = .ok (.number (-2.5)) ∧
      ∃ value, IsNumber "-2.5" value := by
  have text : (Value.number (-2.5)).text = "-2.5" := by decide +kernel
  have finite : (-2.5 : Float).isFinite = true := by decide +kernel
  obtain ⟨numbers, -, printed, retyped⟩ := runLine_retyped
  have shown := printed (-2.5) finite
  rw [text] at shown
  exact ⟨text, (retyped (-2.5) finite (by decide +kernel) (withConfig {}) (by decide)).1,
    numbers _ shown (by decide)⟩

end Environment

end LineLisp
