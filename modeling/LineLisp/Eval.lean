import LineLisp.Eval.Rules

/-! Evaluation of expressions.
The evaluations in progress at a time are bounded; how many more may start
inside one another is its room, which every evaluation passes on less one. -/
namespace LineLisp

def evaluateWithin : Nat → Expr → Run Value
  | 0, _ => do throw (.nestingTooDeep (← Run.environment).nesting)
  | room + 1, expr => Run.nested (Run.spread room (Rules.evaluation (evaluateWithin room) expr))

def Environment.room (env : Environment) : Nat :=
  env.config.maxEvalDepth - env.nesting

def Expr.evaluate (expr : Expr) : Run Value := do
  evaluateWithin (← Run.environment).room expr

end LineLisp
