import LineLisp.Globals

/-! What an evaluation works on: limits, global definitions, the parameters of
the calls in progress, innermost first, and the number of evaluations in
progress. An argument that fails leaves its parameter without a value, or else
makes the call fail. -/
namespace LineLisp

inductive ArgumentErrors where
  | swallow
  | propagate
deriving DecidableEq, Repr

structure Config where
  argumentErrors : ArgumentErrors := .swallow
  maxCallDepth : Nat := 64
  maxEvalDepth : Nat := 256
deriving DecidableEq, Repr

abbrev Frame := List (String × Binding)

/-- Binds parameters to arguments; of two parameters with one name the last
counts. -/
def Frame.ofArguments (parameters : List String) (arguments : List Binding) : Frame :=
  (parameters.zip arguments).reverse

structure CallStack where
  frames : List Frame := []
  depth : Nat := 0
  counted : depth = frames.length := by rfl

namespace CallStack

def push (stack : CallStack) (frame : Frame) : CallStack :=
  ⟨frame :: stack.frames, stack.depth + 1, by simp [stack.counted]⟩

def pop (stack : CallStack) : CallStack :=
  ⟨stack.frames.tail, stack.depth - 1, by simp [stack.counted]⟩

/-- The frames alone make out a stack. -/
theorem eq_of_frames {a b : CallStack} (same : a.frames = b.frames) : a = b := by
  obtain ⟨frames, depth, counted⟩ := a
  obtain ⟨others, count, recount⟩ := b
  simp only at same
  subst same counted recount
  rfl

@[simp] theorem pop_push (stack : CallStack) (frame : Frame) : (stack.push frame).pop = stack :=
  eq_of_frames rfl

end CallStack

structure Environment where
  config : Config := {}
  globals : Globals := .empty
  stack : CallStack := {}
  nesting : Nat := 0

namespace Environment

def withConfig (config : Config) : Environment := { config }

def depth (env : Environment) : Nat :=
  env.stack.depth

def top (env : Environment) : Frame :=
  env.stack.frames.headD []

/-- The binding of a name: a parameter of the innermost call or a global. The
parameters of its callers are out of sight. -/
def lookup (env : Environment) (name : String) : Option Binding :=
  (env.top.lookup name).or (env.globals.get? name)

def define (env : Environment) (name : String) (binding : Binding) : Environment :=
  { env with globals := env.globals.insert name binding }

def push (env : Environment) (frame : Frame) : Environment :=
  { env with stack := env.stack.push frame }

def pop (env : Environment) : Environment :=
  { env with stack := env.stack.pop }

def enter (env : Environment) : Environment :=
  { env with nesting := env.nesting + 1 }

def leave (env : Environment) : Environment :=
  { env with nesting := env.nesting - 1 }

end Environment

end LineLisp
