import LineLisp.Proofs.Semantics.Completeness
import LineLisp.Proofs.Semantics.Soundness
import LineLisp.Session

/-! Evaluation agrees with what expressions mean.
An evaluation that does not hit a limit gives what is derived, and one that hits
every limit has nothing derived for it. -/
namespace LineLisp

open Run

def Environment.withLimits (env : Environment) (calls evaluations : Nat) : Environment :=
  { env with config := { env.config with maxCallDepth := calls, maxEvalDepth := evaluations } }

/-- A procedure that does nothing but call itself has no result. -/
theorem Evaluates.endless {policy : ArgumentErrors} {name : String} {meant : Procedure}
    {place seat : Span} (foreign : Operator.ofName? name = none) (closed : meant.parameters = [])
    (again : meant.body = .form ⟨name, place⟩ [] seat) :
    ∀ {frame before expr result after}, Evaluates policy frame before expr result after →
      before.get? name = some (.procedure meant) → ∀ place seat, expr ≠ .form ⟨name, place⟩ [] seat
  | _, _, _, _, _, .number, _ | _, _, _, _, _, .boolean, _ | _, _, _, _, _, .bound _, _
  | _, _, _, _, _, .unbound _, _ => nofun
  | _, _, _, _, _, .form spelled _, _ => by
    rintro place seat ⟨⟩
    rw [foreign] at spelled
    cases spelled
  | _, _, _, _, _, .argumentsFail _ failed, _ => by
    rintro place seat ⟨⟩
    cases failed
  | _, _, _, _, _, .calleeUnbound _ passed missing, known => by
    rintro place seat ⟨⟩
    cases passed
    rw [known] at missing
    cases missing
  | _, _, _, _, _, .calleeOther _ passed found other, known => by
    rintro place seat ⟨⟩
    cases passed
    rw [known] at found
    exact other meant (Option.some.inj found).symm
  | _, _, _, _, _, .arity _ passed found unequal, known => by
    rintro place seat ⟨⟩
    cases passed
    rw [known] at found
    cases found
    exact unequal (congrArg List.length closed)
  | _, _, _, _, _, .call _ passed found _ body, known => by
    have inner := endless foreign closed again body
    rintro place seat ⟨⟩
    cases passed
    rw [known] at found
    cases found
    exact inner known _ _ again

namespace Environment

theorem evaluate_gives {env : Environment} {expr : Expr} {result : Except EvalError Value}
    {after : Globals} (given : Gives env (evaluateWithin env.room expr) env.globals result after) :
    (env.evaluate expr).result = result ∧ (env.evaluate expr).env.globals = after := by
  obtain ⟨more, ran⟩ := given []
  have evaluated : expr.evaluate { env } = ended result ⟨{ env with globals := after }, more⟩ := ran
  unfold evaluate
  rw [evaluated]
  cases result <;> exact ⟨rfl, rfl⟩

theorem evaluate_sound (env : Environment) (expr : Expr)
    (settled : Settled (env.evaluate expr).result) :
    Evaluates env.config.argumentErrors env.frame? env.globals expr (env.evaluate expr).result
      (env.evaluate expr).env.globals := by
  obtain ⟨result, after, given, meets⟩ := evaluateWithin_sound env.room env expr env.globals
  obtain ⟨same, ends⟩ := evaluate_gives given
  rw [same] at settled ⊢
  rw [ends]
  exact meets settled

/-- Only a limit ends a procedure that does nothing but call itself. -/
theorem evaluate_endless {env : Environment} {name : String} {meant : Procedure} {place seat : Span}
    (foreign : Operator.ofName? name = none) (closed : meant.parameters = [])
    (again : meant.body = .form ⟨name, place⟩ [] seat)
    (bound : env.globals.get? name = some (.procedure meant)) (here span : Span) :
    ∃ err, (env.evaluate (.form ⟨name, here⟩ [] span)).result = .error err ∧ err.isFatal = true := by
  have unsettled : ¬ Settled (env.evaluate (.form ⟨name, here⟩ [] span)).result := fun settled =>
    (evaluate_sound env _ settled).endless foreign closed again bound here span rfl
  cases result : (env.evaluate (.form ⟨name, here⟩ [] span)).result with
  | ok value => exact absurd (by rw [result]; trivial) unsettled
  | error err =>
    rw [result] at unsettled
    exact ⟨err, rfl, by simpa [Settled] using unsettled⟩

theorem evaluate_complete {env : Environment} {expr : Expr} {result : Except EvalError Value}
    {after : Globals}
    (derived : Evaluates env.config.argumentErrors env.frame? env.globals expr result after) :
    ∃ bound, ∀ calls ≥ bound, ∀ evaluations ≥ bound,
      ((env.withLimits calls evaluations).evaluate expr).result = result ∧
        ((env.withLimits calls evaluations).evaluate expr).env.globals = after := by
  obtain ⟨bound, given⟩ := derived.reaches
  refine ⟨env.depth + env.nesting + bound, fun calls enough evaluations ample => ?_⟩
  have room : bound ≤ (env.withLimits calls evaluations).room := by
    change bound ≤ evaluations - env.nesting
    omega
  have free : (env.withLimits calls evaluations).depth + bound ≤
      (env.withLimits calls evaluations).config.maxCallDepth := by
    change env.depth + bound ≤ calls
    omega
  exact evaluate_gives (given _ _ ⟨rfl, rfl⟩ room free)

/-- An expression means one thing at most. -/
theorem derived_unique {env : Environment} {expr : Expr} {result other : Except EvalError Value}
    {after finish : Globals}
    (derived : Evaluates env.config.argumentErrors env.frame? env.globals expr result after)
    (again : Evaluates env.config.argumentErrors env.frame? env.globals expr other finish) :
    result = other ∧ after = finish := by
  obtain ⟨bound, given⟩ := evaluate_complete derived
  obtain ⟨limit, found⟩ := evaluate_complete again
  -- Limits wide enough for both derivations give both of their results.
  have first := given (max bound limit) (by omega) (max bound limit) (by omega)
  have second := found (max bound limit) (by omega) (max bound limit) (by omega)
  exact ⟨first.1.symm.trans second.1, first.2.symm.trans second.2⟩

/-- Evaluation agrees with the judgment on expressions: it gives what is derived unless it hits a
limit, what is derived is given under all limits that are wide enough, and nothing is derived
exactly if every limit is hit. -/
theorem evaluate_adequate (env : Environment) (expr : Expr) :
    (Settled (env.evaluate expr).result → ∀ result globals,
      Evaluates env.config.argumentErrors env.frame? env.globals expr result globals ↔
        result = (env.evaluate expr).result ∧ globals = (env.evaluate expr).env.globals) ∧
    (∀ result globals,
      Evaluates env.config.argumentErrors env.frame? env.globals expr result globals →
        ∃ bound, ∀ calls ≥ bound, ∀ evaluations ≥ bound,
          ((env.withLimits calls evaluations).evaluate expr).result = result ∧
            ((env.withLimits calls evaluations).evaluate expr).env.globals = globals) ∧
    ((∀ calls evaluations, ¬ Settled ((env.withLimits calls evaluations).evaluate expr).result) ↔
      ¬ ∃ result globals,
        Evaluates env.config.argumentErrors env.frame? env.globals expr result globals) := by
  refine ⟨?_, fun _ _ => evaluate_complete, ?_⟩
  · intro settled result globals
    have sound := evaluate_sound env expr settled
    constructor
    · intro derived
      exact derived_unique derived sound
    · intro same
      rw [same.1, same.2]
      exact sound
  · constructor
    · intro fatal derivable
      obtain ⟨result, globals, derived⟩ := derivable
      obtain ⟨bound, given⟩ := evaluate_complete derived
      have reached := given bound (Nat.le_refl _) bound (Nat.le_refl _)
      apply fatal bound bound
      rw [reached.1]
      exact derived.settled
    · intro underivable calls evaluations settled
      have derived := evaluate_sound (env.withLimits calls evaluations) expr settled
      exact underivable ⟨_, _, derived⟩

end Environment

end LineLisp
