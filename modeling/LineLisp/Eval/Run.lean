import LineLisp.Event

/-! Computations that evaluation is made of.
A run works on an environment and a log, the latest event first, and keeps both
when it fails, so that definitions made before an error stay. Deep nestings of
evaluations are spread over several call stacks. -/
namespace LineLisp

structure Machine where
  env : Environment
  log : List Event := []

abbrev Run := EStateM EvalError Machine

namespace Run

variable {α : Type}

def environment : Run Environment := fun machine =>
  .ok machine.env machine

def emit (event : Event) : Run Unit := fun machine =>
  .ok () { machine with log := event :: machine.log }

def define (name : String) (binding : Binding) : Run Unit := fun machine =>
  .ok () { machine with env := machine.env.define name binding }

def ofExcept : Except EvalError α → Run α
  | .ok value => pure value
  | .error err => throw err

/-- Runs `body` in a changed environment and undoes the change afterwards,
whether `body` fails or not. -/
def bracket (change undo : Environment → Environment) (body : Run α) : Run α := fun machine =>
  match body { machine with env := change machine.env } with
  | .ok value after => .ok value { after with env := undo after.env }
  | .error err after => .error err { after with env := undo after.env }

def withFrame (frame : Frame) (body : Run α) : Run α :=
  bracket (·.push frame) (·.pop) body

def nested (body : Run α) : Run α :=
  bracket (·.enter) (·.leave) body

def attempt (body : Run α) : Run (Except EvalError α) := fun machine =>
  match body machine with
  | .ok value after => .ok (.ok value) after
  | .error err after => .ok (.error err) after

/-- Does `work` on a call stack of its own. -/
def onFreshStack {β : Type} (work : Unit → β) : β :=
  (Task.spawn work .dedicated).get

@[simp] theorem onFreshStack_eq {β : Type} (work : Unit → β) : onFreshStack work = work () := rfl

def stackShare : Nat := 1000

def spread (room : Nat) (body : Run α) : Run α := fun machine =>
  if (room + 1) % stackShare = 0 then onFreshStack fun _ => body machine else body machine

@[simp] theorem spread_eq (room : Nat) (body : Run α) : spread room body = body := by
  funext machine
  simp [spread]

end Run

end LineLisp
