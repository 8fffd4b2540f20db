import LineLisp.Proofs.Simulation.Settings

/-! Dropping the errors of arguments against passing them on.
Both policies evaluate alike up to the first argument that fails. There the one
goes on without a value and the other ends with the error. -/
namespace LineLisp

open Run

def Environment.withPolicy (env : Environment) (policy : ArgumentErrors) : Environment :=
  env.under { env.config with argumentErrors := policy }

def Outcome.dropped {ε : Type} (outcome : Outcome ε) : List EvalError :=
  outcome.log.filterMap Event.dropped?

namespace Simulation

def firstDropped : Loss where
  lost err log := (log.reverse.filterMap Event.dropped?).head? = some err ∧ err.isFatal = false
  stays event first := by
    refine ⟨?_, first.2⟩
    rw [List.reverse_cons, List.filterMap_append, List.head?_append, first.1]
    rfl

def policies (config : Config) : Simulation Unit :=
  .reconfigured { config with argumentErrors := .propagate }
    { config with argumentErrors := .swallow } (fun log => log.filterMap Event.dropped? = [])
    firstDropped

theorem sound_policies (config : Config) : (policies config).Sound id := by
  refine sound_reconfigured ?_ (Nat.le_refl _) (fun less => absurd less (Nat.lt_irrefl _)) ?_
  · intro event log kept none
    rw [List.filterMap_cons_none kept, none]
  · intro callee err regular
    refine ⟨fun m n meet => ?_, keeps_recover callee err⟩
    obtain ⟨settings, same, none⟩ := meet
    have first : firstDropped.lost err (.argumentDropped callee err :: n.log) := by
      refine ⟨?_, regular⟩
      rw [List.reverse_cons, List.filterMap_append, List.filterMap_reverse, none]
      rfl
    rw [Run.recover_propagate (by rw [settings]), Run.recover_swallow (by rw [same]; rfl)]
    exact .lost (.inr (by rw [settings])) first

end Simulation

namespace Environment

/-- Passing the errors of arguments on gives what dropping them gives, if none is dropped, and the
first error that is dropped otherwise. -/
theorem evaluate_policy (env : Environment) (expr : Expr) :
    let swallowing := (env.withPolicy .swallow).evaluate expr
    let propagating := (env.withPolicy .propagate).evaluate expr
    (swallowing.dropped = [] → propagating.result = swallowing.result ∧
      propagating.env.globals = swallowing.env.globals) ∧
    (∀ err rest, swallowing.dropped = err :: rest → propagating.result = .error err) ∧
    ((∀ err, propagating.result = .error err → err.isFatal = true) →
      swallowing.result = propagating.result ∧
        swallowing.env.globals = propagating.env.globals) := by
  dsimp only
  have both := (Simulation.sound_policies env.config).evaluate_under rfl (Nat.le_refl _)
    (fun less => absurd less (Nat.lt_irrefl _)) env expr
  have named (policy : ArgumentErrors) :
      env.under { env.config with argumentErrors := policy } = env.withPolicy policy := rfl
  rw [named, named] at both
  generalize (env.withPolicy .swallow).evaluate expr = swallowing at both ⊢
  rcases both with ⟨same, envs, none⟩ | ⟨err, failed, first, regular⟩
  · have kept : swallowing.dropped = [] := by
      have reversed := congrArg List.reverse none
      rwa [List.filterMap_reverse, List.reverse_reverse] at reversed
    have globals := congrArg Environment.globals envs
    refine ⟨fun _ => ⟨same.symm, globals.symm⟩, fun err rest dropped => ?_, fun _ => ⟨same, globals⟩⟩
    rw [kept] at dropped
    cases dropped
  · rw [List.reverse_reverse] at first
    change swallowing.dropped.head? = some err at first
    refine ⟨fun none => ?_, fun other rest dropped => ?_, fun fatal => ?_⟩
    · rw [none] at first
      cases first
    · rw [dropped] at first
      cases first
      exact failed
    · have limit := fatal err failed
      rw [regular] at limit
      cases limit

def indifferent : Environment :=
  (withConfig {}).define "g" (.procedure ⟨"g", ["x"], .boolean true .unknown⟩)

theorem indifferent_policy :
    let call := Expr.form ⟨"g", .unknown⟩ [.name ⟨"h", .unknown⟩] .unknown
    ((indifferent.withPolicy .swallow).evaluate call).dropped = [.undefined "h" .unknown] ∧
      ((indifferent.withPolicy .swallow).evaluate call).result = .ok (.boolean true) ∧
      ((indifferent.withPolicy .propagate).evaluate call).result =
        .error (.undefined "h" .unknown) :=
  ⟨rfl, rfl, (evaluate_policy indifferent _).2.1 _ [] rfl⟩

end Environment

end LineLisp
