import LineLisp.Proofs.Trace

/-! What is noted before an evaluation.
Evaluation adds to the log and never reads it, so that what it does can be told
with an empty log, and what it notes stands behind the event that it begins with. -/
namespace LineLisp

open Run

namespace Simulation

def beneath (first second : List Event) : Simulation Unit :=
  .plain (.of fun _ => False)
    (fun _ m n => m.env = n.env ∧ ∃ more, m.log = more ++ first ∧ n.log = more ++ second)
    fun _ _ => ()

theorem sound_beneath (first second : List Event) : (beneath first second).Sound id := by
  have noted {m n : Machine} {event other : Event} (told : event = other)
      (meet : (beneath first second).machine () m n) : (beneath first second).machine ()
        { m with log := event :: m.log } { n with log := other :: n.log } := by
    obtain ⟨same, more, left, right⟩ := meet
    exact ⟨same, event :: more, congrArg _ left, told ▸ congrArg _ right⟩
  apply Plain.sound
  constructor
  case recover =>
    intro level callee err _
    exact follows_recover (fun meet => by rw [meet.1]) callee rfl fun m n meet => noted rfl meet
  case note => exact fun meet _ _ => noted rfl meet
  case evaluating => exact fun meet expr => noted (congrArg (Event.evaluating expr) meet.1) meet
  case define => exact fun meet _ _ => ⟨by rw [meet.1], meet.2⟩
  case push => exact fun meet _ => ⟨by rw [meet.1], meet.2⟩
  case pop | enter | leave => exact fun meet => ⟨by rw [meet.1], meet.2⟩
  case lookup => exact fun meet _ => by rw [meet.1]
  case globals | depth | nesting => exact fun meet => by rw [meet.1]
  case calls => exact fun meet => Nat.le_of_eq (by rw [meet.1])
  case fewer => exact fun meet less => absurd (meet.1 ▸ less) (Nat.lt_irrefl _)

end Simulation

def Run.onto {α : Type} (log : List Event) :
    EStateM.Result EvalError Machine α → EStateM.Result EvalError Machine α
  | .ok value after => .ok value { after with log := after.log ++ log }
  | .error err after => .error err { after with log := after.log ++ log }

/-- The rule for an expression does the same whatever has been noted. -/
theorem Rules.value_onto (expr : Expr) (env : Environment) (log : List Event) :
    value Expr.evaluate expr ⟨env, log⟩ = onto log (value Expr.evaluate expr ⟨env, []⟩) := by
  have sound := Simulation.sound_beneath [] log
  have evaluated (part : Expr) : Follows (.beneath [] log) () Eq part.evaluate
      (part.relocate id).evaluate := by
    refine .environment (fun m n meet => ?_) fun env => keeps_evaluateWithin _ _ _
    rw [meet.1]
    exact (sound.follows (Nat.le_refl _) (fun less => absurd less (Nat.lt_irrefl _)) () part).ends
      m n meet
  have followed := sound.toCalling.value evaluated (fun _ => evaluated)
    (fun part => keeps_evaluate _ part) expr
  rw [Expr.relocate_id] at followed
  have ends := followed.ends ⟨env, []⟩ ⟨env, log⟩ ⟨rfl, [], rfl, rfl⟩
  generalize value Expr.evaluate expr ⟨env, []⟩ = left, value Expr.evaluate expr ⟨env, log⟩ = right
    at ends
  have whole {after finish : Machine} (meet : (Simulation.beneath [] log).machine () after finish) :
      finish = { after with log := after.log ++ log } := by
    obtain ⟨same, more, first, second⟩ := meet
    rw [same, first, List.append_nil, ← second]
  cases ends with
  | ok same meet => rw [← show _ = _ from same, whole meet]; rfl
  | error same meet => rw [← show _ = _ from same, whole meet]; rfl
  | lost _ lost => exact lost.elim

namespace Environment

theorem evaluate_refused {env : Environment} (full : env.room = 0) (expr : Expr) :
    env.evaluate expr = ⟨.error (.nestingTooDeep env.nesting), env, []⟩ := by
  rw [evaluate_eq, evaluate_eq_limited, limited_refuses _ expr _ full]
  rfl

/-- An evaluation notes its expression and goes on as the rule for it says. -/
theorem evaluate_rule {env : Environment} (more : env.room ≠ 0) (expr : Expr) :
    let inner := outcome (Rules.value Expr.evaluate expr ⟨env.enter, []⟩)
    env.evaluate expr = ⟨inner.result, inner.env.leave, .evaluating expr env.enter :: inner.log⟩ := by
  have noted : Machine.inside { env } expr = ⟨env.enter, [.evaluating expr env.enter]⟩ := rfl
  rw [evaluate_eq, evaluate_eq_limited, limited_eq _ expr more, noted, Rules.value_onto _ _ [_]]
  cases Rules.value Expr.evaluate expr ⟨env.enter, []⟩ <;> simp [outcome, onto]

end Environment

end LineLisp
