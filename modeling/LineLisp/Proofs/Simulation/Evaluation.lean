import LineLisp.Proofs.Simulation.Rules
import LineLisp.Session

/-! Evaluations follow evaluations.
A simulation that also goes on into evaluations and calls holds between whole
evaluations, of an expression and of the same expression at other places. The
second may have more room than the first if lack of room is one of the reasons
for which the first may fail for good. -/
namespace LineLisp

def Event.isRoutine : Event → Bool
  | .evaluating .. | .argumentDropped .. => false
  | _ => true

def Event.dropped? : Event → Option EvalError
  | .argumentDropped _ err => some err
  | _ => none

theorem Event.dropped?_of_isRoutine {event : Event} (routine : event.isRoutine = true) :
    event.dropped? = none := by
  cases event with
  | argumentDropped => cases routine
  | _ => rfl

open Run

variable {Level : Type} {s : Simulation Level} {move : Span → Span}

namespace Simulation

/-- What holds of machines stays so while calls begin and end; a call that the first run refuses
is one that the second refuses, or else the first has failed for good. -/
structure Calling (s : Simulation Level) (move : Span → Span) : Prop extends s.Lawful where
  placed : ∀ span, s.place span (move span)
  procedure_iff : ∀ {meant peer}, s.procedure meant peer ↔ peer = meant.relocate move
  calling : ∀ {level m n}, s.machine level m n → ∀ name,
    s.machine level { m with log := .call name (m.env.depth + 1) :: m.log }
      { n with log := .call name (n.env.depth + 1) :: n.log }
  push : ∀ {level m n}, s.machine level m n → ∀ frame,
    s.machine (s.call level frame) { m with env := m.env.push frame }
      { n with env := n.env.push (Entries.relocate move frame) }
  pop : ∀ {level frame m n}, s.machine (s.call level frame) m n →
    s.machine level { m with env := m.env.pop } { n with env := n.env.pop }
  exhausted : ∀ {level m n}, s.machine level m n → m.env.config.maxCallDepth ≤ m.env.depth →
    (n.env.config.maxCallDepth ≤ n.env.depth ∧
      s.error (.stackExhausted m.env.depth) (.stackExhausted n.env.depth)) ∨
    ∀ log, s.lost (.stackExhausted m.env.depth) log
  free : ∀ {level m n}, s.machine level m n → m.env.depth < m.env.config.maxCallDepth →
    n.env.depth < n.env.config.maxCallDepth

structure Sound (s : Simulation Level) (move : Span → Span) : Prop extends s.Calling move where
  evaluating : ∀ {level m n}, s.machine level m n → ∀ expr,
    s.machine level { m with log := .evaluating expr m.env :: m.log }
      { n with log := .evaluating (expr.relocate move) n.env :: n.log }
  enter : ∀ {level m n}, s.machine level m n →
    s.machine level { m with env := m.env.enter } { n with env := n.env.enter }
  leave : ∀ {level m n}, s.machine level m n →
    s.machine level { m with env := m.env.leave } { n with env := n.env.leave }
  full : ∀ {level m n}, s.machine level m n →
    s.error (.nestingTooDeep m.env.nesting) (.nestingTooDeep n.env.nesting)

/-- The rules follow each other if the evaluations that they start do, at this level and at those
of the calls. -/
theorem Calling.value (calling : s.Calling move) {self other : Expr → Run Value} {level : Level}
    (evaluated : ∀ expr, Follows s level Eq (self expr) (other (expr.relocate move)))
    (called : ∀ frame expr,
      Follows s (s.call level frame) Eq (self expr) (other (expr.relocate move)))
    (bodies : ∀ expr, Keeps s (other expr)) (expr : Expr) :
    Follows s level Eq (Rules.value self expr) (Rules.value other (expr.relocate move)) := by
  have lawful := calling.toLawful
  have stands (procedure : Procedure) : s.procedure procedure (procedure.relocate move) :=
    calling.procedure_iff.mpr rfl
  have framed (meant : Procedure) (frame : Frame) :
      Follows s level Eq (withFrame frame (self meant.body))
        (withFrame (Entries.relocate move frame) (other (meant.relocate move).body)) :=
    (called frame meant.body).bracket (fun _ _ meet => calling.push meet frame)
      (fun _ _ => calling.pop) fun _ => rfl
  have invoked (meant rival : Procedure) (same : s.procedure meant rival)
      (bindings peers : List Binding) (bound : List.Forall₂ s.Binds bindings peers) (span : Span) :
      Follows s level Eq (Rules.invoke self meant bindings span)
        (Rules.invoke other rival peers (move span)) := by
    obtain rfl := calling.procedure_iff.mp same
    refine Rules.follows_invoke lawful.toFair same bound (calling.placed span)
      (fun _ _ => calling.exhausted) (fun m n meet free _ => ?_) (bodies _)
    have moved : peers = bindings.map (·.relocate move) :=
      Binds.map_relocate (fun _ _ => calling.procedure_iff.mp) bound
    rw [moved, Frame.ofArguments_relocate]
    exact ⟨calling.free meet free, calling.calling meet meant.name, framed meant _⟩
  exact Rules.follows_value lawful calling.placed stands evaluated invoked bodies expr

theorem Sound.step (sound : s.Sound move) {self other : Expr → Run Value}
    (evaluated : ∀ level expr, Follows s level Eq (self expr) (other (expr.relocate move)))
    (bodies : ∀ expr, Keeps s (other expr)) (level : Level) (expr : Expr) :
    Follows s level Eq (nested (Rules.evaluation self expr))
      (nested (Rules.evaluation other (expr.relocate move))) := by
  have valued := sound.toCalling.value (evaluated level) (fun _ => evaluated _) bodies expr
  exact Rules.follows_evaluation valued (fun _ _ => sound.enter) (fun _ _ => sound.leave)
    fun _ _ meet => sound.evaluating meet expr

def plain (loss : Loss) (machine : Level → Machine → Machine → Prop)
    (call : Level → Frame → Level) : Simulation Level where
  toLoss := loss
  machine := machine
  call := call
  error := Eq
  place := Eq
  procedure := Eq

variable {loss : Loss} {machine : Level → Machine → Machine → Prop} {call : Level → Frame → Level}

structure Plain (loss : Loss) (machine : Level → Machine → Machine → Prop)
    (call : Level → Frame → Level) : Prop where
  lookup : ∀ {level m n}, machine level m n → ∀ name, m.env.lookup name = n.env.lookup name
  globals : ∀ {level m n}, machine level m n → m.env.globals = n.env.globals
  depth : ∀ {level m n}, machine level m n → m.env.depth = n.env.depth
  define : ∀ {level m n}, machine level m n → ∀ name binding,
    machine level { m with env := m.env.define name binding }
      { n with env := n.env.define name binding }
  note : ∀ {level m n}, machine level m n → ∀ {event : Event}, event.isRoutine = true →
    machine level { m with log := event :: m.log } { n with log := event :: n.log }
  recover : ∀ {level} callee {err}, err.isFatal = false →
    Follows (plain loss machine call) level (plain loss machine call).Binds
      (Run.recover callee err) (Run.recover callee err)
  push : ∀ {level m n}, machine level m n → ∀ frame,
    machine (call level frame) { m with env := m.env.push frame } { n with env := n.env.push frame }
  pop : ∀ {level frame m n}, machine (call level frame) m n →
    machine level { m with env := m.env.pop } { n with env := n.env.pop }
  calls : ∀ {level m n}, machine level m n →
    m.env.config.maxCallDepth ≤ n.env.config.maxCallDepth
  fewer : ∀ {level m n}, machine level m n →
    m.env.config.maxCallDepth < n.env.config.maxCallDepth →
      ∀ depth log, loss.lost (.stackExhausted depth) log

theorem Plain.calling (of : Plain loss machine call) : (plain loss machine call).Calling id where
  fatal same := by rw [same]
  ordinary _ _ same := by rw [same]; rfl
  naming same _ := by rw [same]; exact ⟨rfl, rfl⟩
  signature same := by rw [same]; exact ⟨rfl, rfl⟩
  lookup meet name := by rw [of.lookup meet]; exact Binds.rel_self (fun _ => rfl) _
  global meet name := by rw [of.globals meet]; exact Binds.rel_self (fun _ => rfl) _
  define meet name binding other binds := by
    rw [binds.eq fun _ _ => id]
    exact of.define meet name other
  note meet event defining := of.note meet (by cases event <;> first | rfl | cases defining)
  recover callee err other same regular := by
    obtain rfl : err = other := same
    exact of.recover callee regular
  placed _ := rfl
  procedure_iff := by
    intro meant peer
    rw [Procedure.relocate_id]
    exact eq_comm
  calling meet name := by
    rw [of.depth meet]
    exact of.note meet rfl
  push meet frame := by
    rw [Entries.relocate_id]
    exact of.push meet frame
  pop := of.pop
  exhausted := by
    intro level m n meet full
    rcases Nat.lt_or_eq_of_le (of.calls meet) with less | same
    · exact .inr (of.fewer meet less _)
    · rw [same, of.depth meet] at full
      exact .inl ⟨full, congrArg EvalError.stackExhausted (of.depth meet)⟩
  free := by
    intro level m n meet free
    rw [of.depth meet] at free
    exact Nat.lt_of_lt_of_le free (of.calls meet)

theorem Plain.sound (of : Plain loss machine call)
    (nesting : ∀ {level m n}, machine level m n → m.env.nesting = n.env.nesting)
    (evaluating : ∀ {level m n}, machine level m n → ∀ expr,
      machine level { m with log := .evaluating expr m.env :: m.log }
        { n with log := .evaluating expr n.env :: n.log })
    (enter : ∀ {level m n}, machine level m n →
      machine level { m with env := m.env.enter } { n with env := n.env.enter })
    (leave : ∀ {level m n}, machine level m n →
      machine level { m with env := m.env.leave } { n with env := n.env.leave }) :
    (plain loss machine call).Sound id where
  toCalling := of.calling
  evaluating meet expr := by
    rw [Expr.relocate_id]
    exact evaluating meet expr
  enter := enter
  leave := leave
  full meet := congrArg EvalError.nestingTooDeep (nesting meet)

def itself (loss : Loss) : Simulation Unit :=
  .plain loss (fun _ => Eq) fun _ _ => ()

theorem sound_itself (loss : Loss) : (itself loss).Sound id := by
  apply Plain.sound
  constructor
  case recover =>
    intro level callee err _
    exact follows_recover (fun same => congrArg (·.env.config.argumentErrors) same) callee rfl
      fun m n same => by rw [show m = n from same]; rfl
  case calls => exact fun same => Nat.le_of_eq (congrArg (·.env.config.maxCallDepth) same)
  case fewer => exact fun same less => absurd (same ▸ less) (Nat.lt_irrefl _)
  case pop =>
    intro level frame m n same
    obtain rfl : m = n := same
    rfl
  all_goals
    intro level m n same
    obtain rfl : m = n := same
    intros
    rfl

end Simulation

theorem Run.Ends.itself {α : Type} {loss : Loss} (result : EStateM.Result EvalError Machine α) :
    Ends (.itself loss) () Eq result result := by
  cases result with
  | ok value after => exact .ok rfl rfl
  | error err after => exact .error rfl rfl

def Run.outcome : EStateM.Result EvalError Machine Value → Outcome EvalError
  | .ok value after => ⟨.ok value, after.env, after.log.reverse⟩
  | .error err after => ⟨.error err, after.env, after.log.reverse⟩

theorem Run.log_outcome (result : EStateM.Result EvalError Machine Value) :
    (outcome result).log = (machineAfter result).log.reverse := by
  cases result <;> rfl

/-- Two runs that end together have one result, but for how errors are told. -/
theorem Run.Ends.outcome {level : Level} {left right : EStateM.Result EvalError Machine Value}
    (ends : Ends s level Eq left right) (told : EvalError → EvalError)
    (errors : ∀ {err other}, s.error err other → other = told err) :
    ((outcome right).result = (outcome left).result.mapError told ∧
      s.machine level (machineAfter left) (machineAfter right)) ∨
    ∃ err, (outcome left).result = .error err ∧ s.lost err (machineAfter right).log := by
  cases ends with
  | ok same meet => exact .inl ⟨congrArg Except.ok same.symm, meet⟩
  | error stands meet => exact .inl ⟨congrArg Except.error (errors stands), meet⟩
  | lost _ lost => exact .inr ⟨_, rfl, lost⟩

theorem Run.Ends.outcome_eq {level : Level} {left right : EStateM.Result EvalError Machine Value}
    (ends : Ends s level Eq left right) (errors : ∀ {err other}, s.error err other → err = other) :
    ((Run.outcome right).result = (Run.outcome left).result ∧
      s.machine level (machineAfter left) (machineAfter right)) ∨
    ∃ err, (Run.outcome left).result = .error err ∧ s.lost err (machineAfter right).log := by
  have untold : ∀ result : Except EvalError Value, result.mapError id = result := by
    intro result
    cases result <;> rfl
  rcases ends.outcome id fun stands => (errors stands).symm with ⟨same, meet⟩ | failed
  · rw [untold] at same
    exact .inl ⟨same, meet⟩
  · exact .inr failed

theorem Run.env_outcome (result : EStateM.Result EvalError Machine Value) :
    (outcome result).env = (machineAfter result).env := by
  cases result <;> rfl

theorem Environment.evaluate_eq (env : Environment) (expr : Expr) :
    env.evaluate expr = outcome (expr.evaluate { env }) := rfl

theorem Run.keeps_evaluateWithin (s : Simulation Level) (room : Nat) (expr : Expr) :
    Keeps s (evaluateWithin room expr) := by
  have sound := Simulation.sound_itself s.toLoss
  have itself : ∀ level expr, Follows (.itself s.toLoss) level Eq (evaluateWithin room expr)
      (evaluateWithin room (expr.relocate id)) := by
    induction room with
    | zero => exact fun level expr => ⟨fun m n same => .error (sound.full same) same, fun _ _ => id⟩
    | succ room ih =>
      intro level expr
      have bodies (expr : Expr) : Keeps (.itself s.toLoss) (evaluateWithin room expr) := by
        have kept := (ih level expr).keeps
        rwa [Expr.relocate_id] at kept
      simpa only [evaluateWithin, spread_eq] using sound.step ih bodies level expr
  have kept := (itself () expr).keeps
  rwa [Expr.relocate_id] at kept

namespace Simulation.Sound

theorem follows (sound : s.Sound move) {room ample : Nat} (enough : room ≤ ample)
    (wide : room < ample → ∀ depth log, s.lost (.nestingTooDeep depth) log) (level : Level)
    (expr : Expr) :
    Follows s level Eq (evaluateWithin room expr) (evaluateWithin ample (expr.relocate move)) := by
  -- The second run has at least the room of the first, and may use it up later.
  induction room generalizing ample level expr with
  | zero =>
    refine ⟨fun m n meet => ?_, keeps_evaluateWithin s ample _⟩
    cases ample with
    | zero => exact .error (sound.full meet) meet
    | succ more => exact .lost (.inl rfl) (wide (Nat.zero_lt_succ more) _ _)
  | succ room ih =>
    obtain ⟨more, rfl⟩ : ∃ more, ample = more + 1 := ⟨ample - 1, by omega⟩
    have inside : ∀ level expr, Follows s level Eq (evaluateWithin room expr)
        (evaluateWithin more (expr.relocate move)) := ih (by omega) fun less => wide (by omega)
    simpa only [evaluateWithin, spread_eq] using
      sound.step inside (keeps_evaluateWithin s more) level expr

theorem evaluate (sound : s.Sound move) {level : Level} {env other : Environment}
    (meet : s.machine level { env } { env := other }) (enough : env.room ≤ other.room)
    (wide : env.room < other.room → ∀ depth log, s.lost (.nestingTooDeep depth) log) (expr : Expr) :
    Ends s level Eq (expr.evaluate { env }) ((expr.relocate move).evaluate { env := other }) :=
  (sound.follows enough wide level expr).ends _ _ meet

end Simulation.Sound

end LineLisp
