import LineLisp.Proofs.Simulation.Evaluation

/-! The callers of a procedure.
Only the parameters of the innermost call are in sight. Those of the calls that
it is part of make no difference to what an evaluation does. -/
namespace LineLisp

open Run

def Event.record (event : Event) : Level × String :=
  (event.level, event.message)

/-- Of the environment that an evaluation starts in only the depth is shown. -/
theorem Event.record_evaluating (expr : Expr) {env other : Environment}
    (depth : env.depth = other.depth) :
    (evaluating expr env).record = (evaluating expr other).record :=
  congrArg (fun depth => (Level.trace,
    "evaluating " ++ expr.render ++ "at depth " ++ toString depth)) depth

structure Outcome.Agrees {ε : Type} (outcome other : Outcome ε) : Prop where
  result : outcome.result = other.result
  log : outcome.log.map Event.record = other.log.map Event.record
  globals : outcome.env.globals = other.env.globals

structure Callers where
  first : CallStack
  second : CallStack
  depth : first.depth = second.depth
  top : ∀ name, (first.frames.headD []).lookup name = (second.frames.headD []).lookup name

namespace Callers

def call (callers : Callers) (frame : Frame) : Callers where
  first := callers.first.push frame
  second := callers.second.push frame
  depth := congrArg (· + 1) callers.depth
  top _ := rfl

def Apart (callers : Callers) (m n : Machine) : Prop :=
  m.env.stack = callers.first ∧ n.env = { m.env with stack := callers.second } ∧
    m.log.map Event.record = n.log.map Event.record

def simulation : Simulation Callers :=
  .plain (.of fun _ => False) Apart call

variable {callers : Callers} {m n : Machine}

theorem Apart.depth (apart : Apart callers m n) : m.env.depth = n.env.depth := by
  obtain ⟨stack, same, -⟩ := apart
  rw [same]
  unfold Environment.depth
  rw [stack]
  exact callers.depth

theorem Apart.lookup (apart : Apart callers m n) (name : String) :
    m.env.lookup name = n.env.lookup name := by
  obtain ⟨stack, same, -⟩ := apart
  rw [same]
  unfold Environment.lookup Environment.top
  rw [stack, callers.top]

theorem Apart.note (apart : Apart callers m n) {event other : Event}
    (same : event.record = other.record) :
    Apart callers { m with log := event :: m.log } { n with log := other :: n.log } := by
  obtain ⟨stack, envs, logs⟩ := apart
  refine ⟨stack, envs, ?_⟩
  rw [List.map_cons, List.map_cons, same, logs]

theorem sound : simulation.Sound id := by
  apply Simulation.Plain.sound
  constructor
  case lookup => exact Apart.lookup
  case depth => exact Apart.depth
  case note => exact fun apart event _ => apart.note rfl
  case evaluating =>
    intro level m n apart expr
    exact apart.note (Event.record_evaluating expr apart.depth)
  case recover =>
    intro level callee err _
    refine Simulation.follows_recover (fun {m n} apart => ?_) callee rfl fun m n apart => ?_
    · rw [apart.2.1]
    · exact Apart.note apart rfl
  case push =>
    intro level m n apart frame
    obtain ⟨stack, same, logs⟩ := apart
    rw [same]
    exact ⟨congrArg (CallStack.push · frame) stack, rfl, logs⟩
  case pop =>
    intro callers frame m n apart
    obtain ⟨stack, same, logs⟩ := apart
    rw [same]
    refine ⟨?_, ?_, logs⟩
    · change m.env.stack.pop = callers.first
      rw [stack]
      exact CallStack.pop_push _ _
    · exact congrArg (fun stack => { m.env with stack }) (CallStack.pop_push _ _)
  case define => exact fun apart _ _ => ⟨apart.1, by rw [apart.2.1]; rfl, apart.2.2⟩
  case enter | leave => exact fun apart => ⟨apart.1, by rw [apart.2.1]; rfl, apart.2.2⟩
  case globals | nesting => exact fun apart => by rw [apart.2.1]
  case calls => exact fun apart => Nat.le_of_eq (by rw [apart.2.1])
  case fewer => exact fun apart less => absurd less (by rw [apart.2.1]; exact Nat.lt_irrefl _)

end Callers

namespace Environment

theorem evaluate_beneath (env : Environment) (callers : Callers) (expr : Expr) :
    (evaluate { env with stack := callers.first } expr).Agrees
      (evaluate { env with stack := callers.second } expr) := by
  have meet : Callers.simulation.machine callers { env := { env with stack := callers.first } }
      { env := { env with stack := callers.second } } := ⟨rfl, rfl, rfl⟩
  have ends := Callers.sound.evaluate meet (Nat.le_refl _)
    (fun less => absurd less (Nat.lt_irrefl _)) expr
  rw [Expr.relocate_id] at ends
  rcases ends.outcome_eq id with ⟨same, _, envs, logs⟩ | ⟨_, _, lost⟩
  · refine ⟨same.symm, ?_, ?_⟩
    · rw [evaluate_eq, evaluate_eq, log_outcome, log_outcome, List.map_reverse, List.map_reverse,
        logs]
    · rw [evaluate_eq, evaluate_eq, env_outcome, env_outcome, envs]
  · exact absurd lost id

/-- What an evaluation does is up to the environment with all but the innermost call left out. -/
theorem evaluate_callers (env other : Environment) (config : env.config = other.config)
    (globals : env.globals = other.globals) (depth : env.depth = other.depth)
    (nesting : env.nesting = other.nesting) (expr : Expr) :
    ((∀ name, env.top.lookup name = other.top.lookup name) →
      (env.evaluate expr).Agrees (other.evaluate expr)) ∧
    ∀ frame, ((env.push frame).evaluate expr).Agrees ((other.push frame).evaluate expr) := by
  have peer (stack : CallStack) : { env with stack } = { other with stack } := by
    rw [config, globals, nesting]
  constructor
  · intro top
    have agree := env.evaluate_beneath ⟨env.stack, other.stack, depth, top⟩ expr
    rwa [peer other.stack] at agree
  · intro frame
    have deeper : (env.stack.push frame).depth = (other.stack.push frame).depth :=
      congrArg (· + 1) depth
    have agree := env.evaluate_beneath ⟨env.stack.push frame, other.stack.push frame, deeper,
      fun _ => rfl⟩ expr
    rwa [peer (other.stack.push frame)] at agree

def calledBy (caller : Frame) : Environment :=
  ((withConfig {}).push caller).push [("y", .boolean true)]

theorem calledBy_agrees :
    let test := Expr.form ⟨"if", .unknown⟩ [.name ⟨"y", .unknown⟩, .name ⟨"x", .unknown⟩,
      .name ⟨"y", .unknown⟩] .unknown
    ((calledBy []).evaluate test).Agrees ((calledBy [("x", .boolean true)]).evaluate test) ∧
      ((calledBy [("x", .boolean true)]).evaluate test).result =
        .error (.undefined "x" .unknown) := by
  have callers := evaluate_callers (calledBy []) (calledBy [("x", .boolean true)]) rfl rfl rfl rfl
  exact ⟨(callers _).1 fun _ => rfl, rfl⟩

end Environment

end LineLisp
