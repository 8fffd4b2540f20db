import LineLisp.Proofs.Simulation.Evaluation

/-! The same work under two configurations.
The second run has the environment of the first except for the configuration,
which neither changes. -/
namespace LineLisp

def Environment.under (env : Environment) (config : Config) : Environment :=
  { env with config }

namespace Simulation

def reconfigured (config other : Config) (fit : List Event → Prop) (loss : Loss) :
    Simulation Unit :=
  .plain loss (fun _ m n => m.env.config = config ∧ n.env = m.env.under other ∧ fit n.log)
    fun _ _ => ()

variable {config other : Config} {fit : List Event → Prop} {loss : Loss}

theorem sound_reconfigured
    (noted : ∀ {event log}, event.dropped? = none → fit log → fit (event :: log))
    (calls : config.maxCallDepth ≤ other.maxCallDepth)
    (fewer : config.maxCallDepth < other.maxCallDepth →
      ∀ depth log, loss.lost (.stackExhausted depth) log)
    (recover : ∀ callee {err}, err.isFatal = false →
      Run.Follows (reconfigured config other fit loss) ()
        (reconfigured config other fit loss).Binds (Run.recover callee err)
        (Run.recover callee err)) :
    (reconfigured config other fit loss).Sound id := by
  apply Plain.sound
  constructor
  case recover => exact recover
  case note =>
    exact fun meet event routine =>
      ⟨meet.1, meet.2.1, noted (Event.dropped?_of_isRoutine routine) meet.2.2⟩
  case evaluating => exact fun meet expr => ⟨meet.1, meet.2.1, noted rfl meet.2.2⟩
  case calls =>
    intro level m n meet
    rw [meet.1, meet.2.1]
    exact calls
  case fewer =>
    intro level m n meet
    rw [meet.1, meet.2.1]
    exact fewer
  case define => exact fun meet _ _ => ⟨meet.1, by rw [meet.2.1]; rfl, meet.2.2⟩
  case push => exact fun meet _ => ⟨meet.1, by rw [meet.2.1]; rfl, meet.2.2⟩
  case enter | leave | pop => exact fun meet => ⟨meet.1, by rw [meet.2.1]; rfl, meet.2.2⟩
  case lookup => exact fun meet _ => by rw [meet.2.1]; rfl
  case globals | depth | nesting => exact fun meet => by rw [meet.2.1]; rfl

theorem Sound.evaluate_under (sound : (reconfigured config other fit loss).Sound id)
    (fits : fit []) (enough : config.maxEvalDepth ≤ other.maxEvalDepth)
    (wide : config.maxEvalDepth < other.maxEvalDepth →
      ∀ depth log, loss.lost (.nestingTooDeep depth) log)
    (env : Environment) (expr : Expr) :
    ((env.under other).evaluate expr).result = ((env.under config).evaluate expr).result ∧
      ((env.under other).evaluate expr).env = ((env.under config).evaluate expr).env.under other ∧
      fit ((env.under other).evaluate expr).log.reverse ∨
    ∃ err, ((env.under config).evaluate expr).result = .error err ∧
      loss.lost err ((env.under other).evaluate expr).log.reverse := by
  have meet : (reconfigured config other fit loss).machine () { env := env.under config }
      { env := env.under other } := ⟨rfl, rfl, fits⟩
  have rooms : (env.under config).room ≤ (env.under other).room :=
    Nat.sub_le_sub_right enough env.nesting
  have more : (env.under config).room < (env.under other).room →
      config.maxEvalDepth < other.maxEvalDepth := by
    change config.maxEvalDepth - env.nesting < other.maxEvalDepth - env.nesting → _
    omega
  have ends := sound.evaluate meet rooms (fun less => wide (more less)) expr
  rw [Expr.relocate_id] at ends
  simp only [Environment.evaluate_eq, Run.log_outcome, Run.env_outcome, List.reverse_reverse]
  rcases ends.outcome_eq id with ⟨same, _, envs, fits⟩ | failed
  · exact .inl ⟨same, envs, fits⟩
  · exact .inr failed

end Simulation

end LineLisp
