import LineLisp.Proofs.Recursion

/-! The limits on calls and evaluations.
No evaluation in progress is beyond a limit, and an error about a limit names the
limit. A call takes place inside an evaluation of its own, so that calls run out
first only if they are the stricter limit. -/
namespace LineLisp

def Event.Within (config : Config) : Event → Prop
  | .evaluating _ env => env.nesting ≤ config.maxEvalDepth ∧ env.depth ≤ config.maxCallDepth
  | .call _ depth => depth ≤ config.maxCallDepth
  | _ => True

def EvalError.Reached (start : Environment) : EvalError → Prop
  | .stackExhausted depth =>
    depth = start.config.maxCallDepth ∧
      start.config.maxCallDepth + start.nesting < start.config.maxEvalDepth + start.depth
  | .nestingTooDeep depth => depth = start.config.maxEvalDepth
  | _ => True

namespace Environment

structure Within (start env : Environment) : Prop where
  config : env.config = start.config
  calls : env.depth ≤ env.config.maxCallDepth
  evaluations : env.nesting ≤ env.config.maxEvalDepth
  paced : env.depth + start.nesting ≤ env.nesting + start.depth

theorem Within.enter {start env : Environment} (within : Within start env) (more : env.room ≠ 0) :
    Within start env.enter where
  config := within.config
  calls := within.calls
  evaluations := by
    simp only [room] at more
    simp only [Environment.enter]
    omega
  paced := by
    have paced := within.paced
    simp only [Environment.enter, depth] at paced ⊢
    omega

theorem Within.call {start env : Environment} (within : Within start env) (more : env.room ≠ 0)
    (free : env.depth < env.config.maxCallDepth) (frame : Frame) :
    Within start (env.enter.push frame) where
  config := within.config
  calls := free
  evaluations := (within.enter more).evaluations
  paced := by
    have paced := within.paced
    simp only [Environment.enter, Environment.push, depth, CallStack.push] at paced ⊢
    omega

theorem within_bounds (start : Environment) :
    Bounds (Within start) (Event.Within start.config) (EvalError.Reached start) where
  note shown unplaced := by
    cases shown with
    | evaluating | call => cases unplaced
    | token | defineValue | defineProcedure | argumentDropped => trivial
  ordinary err regular := by
    cases err with
    | stackExhausted | nestingTooDeep => cases regular
    | _ => trivial
  refused env within full := by
    have deep : env.config.maxEvalDepth ≤ env.nesting := Nat.sub_eq_zero_iff_le.mp full
    have bound := within.evaluations
    rw [within.config] at deep bound
    exact Nat.le_antisymm bound deep
  entered env within more := by
    have entered := within.enter more
    refine ⟨entered, fun expr globals => ?_⟩
    rw [← entered.config]
    exact ⟨entered.evaluations, entered.calls⟩
  exhausted env within more full := by
    have bound := within.calls
    have paced := within.paced
    simp only [room] at more
    rw [within.config] at full bound more
    exact ⟨by omega, by omega⟩
  called env within more free := by
    refine ⟨fun name => ?_, within.call more free⟩
    rw [within.config] at free
    exact free

/-- Evaluation is the one solution of a recursion in which nothing goes beyond the limits. -/
theorem evaluate_limits (env : Environment) (expr : Expr)
    (calls : env.depth ≤ env.config.maxCallDepth)
    (evaluations : env.nesting ≤ env.config.maxEvalDepth) :
    (∀ recurse, (∀ expr, recurse expr = limited recurse expr) ↔ recurse = Expr.evaluate) ∧
    (∀ event ∈ (env.evaluate expr).log, event.Within env.config) ∧
    (∀ depth, (env.evaluate expr).result = .error (.stackExhausted depth) →
      depth = env.config.maxCallDepth) ∧
    (∀ depth, (env.evaluate expr).result = .error (.nestingTooDeep depth) →
      depth = env.config.maxEvalDepth) ∧
    (env.depth = 0 → env.nesting = 0 →
      ∀ depth, (env.evaluate expr).result = .error (.stackExhausted depth) →
        env.config.maxCallDepth < env.config.maxEvalDepth) := by
  have within : Within env env := ⟨rfl, calls, evaluations, Nat.le_of_eq (Nat.add_comm _ _)⟩
  obtain ⟨-, shown, errors⟩ := evaluate_within (within_bounds env) within expr
  refine ⟨Run.eq_limited_iff, shown, ?_, fun depth failed => errors _ failed, ?_⟩
  · intro depth failed
    exact (errors _ failed).1
  · intro noCalls noEvaluations depth failed
    have paced := (errors _ failed).2
    rw [noCalls, noEvaluations] at paced
    exact paced

def endless : Environment :=
  (withConfig ⟨.swallow, 2, 5⟩).define "f" (.procedure ⟨"f", [], .form ⟨"f", .unknown⟩ [] .unknown⟩)

theorem endless_exhausted :
    endless.depth ≤ endless.config.maxCallDepth ∧ endless.nesting ≤ endless.config.maxEvalDepth ∧
      (endless.evaluate (.form ⟨"f", .unknown⟩ [] .unknown)).result = .error (.stackExhausted 2) ∧
      endless.config.maxCallDepth < endless.config.maxEvalDepth := by
  have failed : (endless.evaluate (.form ⟨"f", .unknown⟩ [] .unknown)).result =
      .error (.stackExhausted 2) := rfl
  have limits := evaluate_limits endless (.form ⟨"f", .unknown⟩ [] .unknown) (by decide) (by decide)
  exact ⟨by decide, by decide, failed, limits.2.2.2.2 rfl rfl 2 failed⟩

end Environment

end LineLisp
