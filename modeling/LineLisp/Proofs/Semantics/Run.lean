import LineLisp.Eval
import LineLisp.Proofs.Semantics

/-! What a run gives at home.
The log is out of sight here, and of the environment only globals change. -/
namespace LineLisp

def Environment.frame? (env : Environment) : Option Frame :=
  env.stack.frames.head?

theorem Environment.lookup_eq (env : Environment) (name : String) :
    env.lookup name = meaning? env.frame? env.globals name := by
  unfold Environment.lookup meaning? Environment.frame? Environment.top
  cases env.stack.frames <;> rfl

namespace Run

variable {α β : Type} {home : Environment} {before middle after : Globals}

def ended : Except EvalError α → Machine → EStateM.Result EvalError Machine α
  | .ok value, machine => .ok value machine
  | .error err, machine => .error err machine

def Gives (home : Environment) (body : Run α) (before : Globals) (result : Except EvalError α)
    (after : Globals) : Prop :=
  ∀ log, ∃ more, body ⟨{ home with globals := before }, log⟩ =
    ended result ⟨{ home with globals := after }, more⟩

namespace Gives

theorem pure (value : α) : Gives home (pure value) before (.ok value) before :=
  fun log => ⟨log, rfl⟩

theorem throw (err : EvalError) : Gives home (throw err : Run α) before (.error err) before :=
  fun log => ⟨log, rfl⟩

theorem bind {body : Run α} {next : α → Run β} {value : α} {result : Except EvalError β}
    (first : Gives home body before (.ok value) middle)
    (rest : Gives home (next value) middle result after) :
    Gives home (body >>= next) before result after := by
  intro log
  obtain ⟨between, ran⟩ := first log
  obtain ⟨more, finished⟩ := rest between
  refine ⟨more, ?_⟩
  change EStateM.bind body next _ = _
  rw [EStateM.bind, ran]
  exact finished

theorem bind_error {body : Run α} {err : EvalError} (next : α → Run β)
    (failed : Gives home body before (.error err) after) :
    Gives home (body >>= next) before (.error err) after := by
  intro log
  obtain ⟨more, ran⟩ := failed log
  refine ⟨more, ?_⟩
  change EStateM.bind body next _ = _
  rw [EStateM.bind, ran]
  rfl

theorem map {body : Run α} {result : Except EvalError α} (f : α → β)
    (given : Gives home body before result after) :
    Gives home (f <$> body) before (result.map f) after := by
  rw [map_eq_pure_bind]
  cases result with
  | ok value => exact given.bind (.pure (f value))
  | error err => exact given.bind_error _

theorem environment {next : Environment → Run α} {result : Except EvalError α}
    (rest : Gives home (next { home with globals := before }) before result after) :
    Gives home (environment >>= next) before result after :=
  rest

theorem emit (event : Event) : Gives home (emit event) before (.ok ()) before :=
  fun log => ⟨event :: log, rfl⟩

theorem define (name : String) (binding : Binding) :
    Gives home (define name binding) before (.ok ()) (before.insert name binding) :=
  fun log => ⟨log, rfl⟩

theorem attempt {body : Run α} {result : Except EvalError α}
    (given : Gives home body before result after) :
    Gives home (attempt body) before (.ok result) after := by
  intro log
  obtain ⟨more, ran⟩ := given log
  refine ⟨more, ?_⟩
  rw [Run.attempt, ran]
  cases result <;> rfl

theorem bracket {inner : Environment} {change undo : Environment → Environment} {body : Run α}
    {result : Except EvalError α} (given : Gives inner body before result after)
    (enters : ∀ globals, change { home with globals } = { inner with globals })
    (leaves : ∀ globals, undo { inner with globals } = { home with globals }) :
    Gives home (bracket change undo body) before result after := by
  intro log
  obtain ⟨more, ran⟩ := given log
  refine ⟨more, ?_⟩
  simp only [Run.bracket, enters, ran]
  cases result <;> simp only [ended, leaves]

theorem nested {body : Run α} {result : Except EvalError α}
    (given : Gives home.enter body before result after) :
    Gives home (nested body) before result after :=
  given.bracket (fun _ => rfl) fun _ => rfl

theorem withFrame {frame : Frame} {body : Run α} {result : Except EvalError α}
    (given : Gives (home.push frame) body before result after) :
    Gives home (withFrame frame body) before result after :=
  given.bracket (fun _ => rfl) fun _ => by simp [Environment.push, Environment.pop]

/-- One evaluation more, and room for one less. -/
theorem evaluation {room : Nat} {expr : Expr} {result : Except EvalError Value}
    (given : Gives home.enter (Rules.value (evaluateWithin room) expr) before result after) :
    Gives home (evaluateWithin (room + 1) expr) before result after := by
  have noted : Gives home.enter (Rules.evaluation (evaluateWithin room) expr) before result after :=
    .environment ((Gives.emit _).bind given)
  simpa only [evaluateWithin, spread_eq] using noted.nested

end Gives

end Run

structure Placed (policy : ArgumentErrors) (frame : Option Frame) (home : Environment) : Prop where
  policy : home.config.argumentErrors = policy
  frame : home.frame? = frame

end LineLisp
