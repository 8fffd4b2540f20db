import LineLisp.Proofs.Simulation.Rules

/-! Two runs in lockstep.
A comparison says which machines are alike and which errors may come up. Two
runs are alike if they take alike machines to the same result and to machines
that are alike again. Everything that evaluation is made of keeps runs alike, so
that a fact about evaluation needs no more than its sub-evaluations, the bodies
of procedures and the few steps that a comparison looks at. -/
namespace LineLisp

def Event.depth? : Event → Option Nat
  | .evaluating _ env => some env.depth
  | .call _ depth => some depth
  | _ => none

structure Comparison where
  machine : Machine → Machine → Prop
  error : EvalError → Prop

namespace Run

variable {α β : Type} {c : Comparison}

inductive SameResult (c : Comparison) :
    EStateM.Result EvalError Machine α → EStateM.Result EvalError Machine α → Prop
  | ok {value after other} (alike : c.machine after other) :
      SameResult c (.ok value after) (.ok value other)
  | error {err after other} (allowed : c.error err) (alike : c.machine after other) :
      SameResult c (.error err after) (.error err other)

def Alike (c : Comparison) (first second : Run α) : Prop :=
  ∀ m n, c.machine m n → SameResult c (first m) (second n)

namespace Alike

theorem throw {err : EvalError} (allowed : c.error err) :
    Alike c (throw err : Run α) (throw err) :=
  fun _ _ alike => .error allowed alike

theorem bind {first second : Run α} {next follow : α → Run β} (heads : Alike c first second)
    (tails : ∀ value, Alike c (next value) (follow value)) :
    Alike c (first >>= next) (second >>= follow) := by
  intro m n alike
  have same := heads m n alike
  change SameResult c (EStateM.bind first next m) (EStateM.bind second follow n)
  unfold EStateM.bind
  generalize first m = left, second n = right at same
  cases same with
  | ok ends => exact tails _ _ _ ends
  | error allowed ends => exact .error allowed ends

theorem environment {next follow : Environment → Run α}
    (tails : ∀ m n, c.machine m n → Alike c (next m.env) (follow n.env)) :
    Alike c (environment >>= next) (environment >>= follow) :=
  fun m n alike => tails m n alike m n alike

theorem emit {event : Event}
    (noted : ∀ m n, c.machine m n →
      c.machine { m with log := event :: m.log } { n with log := event :: n.log }) :
    Alike c (emit event) (emit event) :=
  fun m n alike => .ok (noted m n alike)

/-- Inside the bracket machines are compared by `inner`. -/
theorem bracket {inner : Comparison} {change undo : Environment → Environment}
    {first second : Run α} (body : Alike inner first second)
    (enters : ∀ m n, c.machine m n →
      inner.machine { m with env := change m.env } { n with env := change n.env })
    (leaves : ∀ m n, inner.machine m n →
      c.machine { m with env := undo m.env } { n with env := undo n.env })
    (errors : ∀ err, inner.error err → c.error err) :
    Alike c (bracket change undo first) (bracket change undo second) := by
  intro m n alike
  have same := body _ _ (enters m n alike)
  unfold Run.bracket
  generalize first _ = left, second _ = right at same
  cases same with
  | ok ends => exact .ok (leaves _ _ ends)
  | error allowed ends => exact .error (errors _ allowed) (leaves _ _ ends)

end Alike

end Run

structure Comparison.Respected (c : Comparison) : Prop where
  policy : ∀ m n, c.machine m n → m.env.config.argumentErrors = n.env.config.argumentErrors
  lookup : ∀ m n, c.machine m n → ∀ name, m.env.lookup name = n.env.lookup name
  globals : ∀ m n, c.machine m n → ∀ name, m.env.globals.get? name = n.env.globals.get? name
  define : ∀ name binding, Run.Alike c (Run.define name binding) (Run.define name binding)
  note : ∀ event : Event, event.depth? = none → Run.Alike c (Run.emit event) (Run.emit event)
  ordinary : ∀ err : EvalError, err.isFatal = false → c.error err

def Comparison.simulation (c : Comparison) : Simulation Unit where
  toLoss := .of fun _ => False
  machine _ := c.machine
  call _ _ := ()
  error err other := err = other ∧ c.error err
  place := Eq
  procedure := Eq

theorem Run.alike_iff {α : Type} {c : Comparison} {first second : Run α} :
    Alike c first second ↔ Follows c.simulation () Eq first second := by
  constructor
  · refine fun alike => ⟨fun m n meet => ?_, fun _ _ => False.elim⟩
    have same := alike m n meet
    generalize first m = left, second n = right at same
    cases same with
    | ok ends => exact .ok rfl ends
    | error allowed ends => exact .error ⟨rfl, allowed⟩ ends
  · intro follows m n meet
    have ended := follows.ends m n meet
    generalize first m = left, second n = right at ended
    cases ended with
    | ok same ends => exact same ▸ .ok ends
    | error stands ends => exact stands.1 ▸ .error stands.2 ends
    | lost _ lost => exact lost.elim

theorem Comparison.Respected.lawful {c : Comparison} (respected : c.Respected) :
    c.simulation.Lawful where
  fatal stands := by rw [stands.1]
  ordinary := by
    intro err first second regular _ place
    have moved : (err.relocate fun _ => first).isFatal = false := by
      rw [EvalError.isFatal_relocate, regular]
    exact ⟨by rw [place], respected.ordinary _ moved⟩
  naming place name := by
    rw [place]
    exact ⟨⟨rfl, respected.ordinary _ rfl⟩, rfl, respected.ordinary _ rfl⟩
  signature same := by rw [same]; exact ⟨rfl, rfl⟩
  lookup meet name := by
    rw [respected.lookup _ _ meet]
    exact Simulation.Binds.rel_self (fun _ => rfl) _
  global meet name := by
    rw [respected.globals _ _ meet]
    exact Simulation.Binds.rel_self (fun _ => rfl) _
  define := by
    intro level m n meet name binding other binds
    rw [binds.eq fun _ _ => id]
    cases respected.define name other m n meet with
    | ok alike => exact alike
  note := by
    intro level m n meet event defining
    have placeless : event.depth? = none := by
      cases event <;> first | rfl | cases defining
    cases respected.note event placeless m n meet with
    | ok alike => exact alike
  recover := by
    intro level callee err other stands regular
    have same : err = other := stands.1
    subst same
    refine Simulation.follows_recover (respected.policy _ _) callee stands fun m n meet => ?_
    cases respected.note (.argumentDropped callee err) rfl m n meet with
    | ok alike => exact alike

namespace Rules
open Run

variable {c : Comparison} {self other : Expr → Run Value}

/-- The limit on calls is all that a call itself depends on. -/
theorem alike_invoke (respected : c.Respected) (procedure : Procedure) (bindings : List Binding)
    (span : Span) (depth : ∀ m n, c.machine m n → m.env.depth = n.env.depth)
    (limit : ∀ m n, c.machine m n → m.env.config.maxCallDepth = n.env.config.maxCallDepth)
    (exhausted : ∀ m n, c.machine m n → m.env.config.maxCallDepth ≤ m.env.depth →
      c.error (.stackExhausted m.env.depth))
    (called : ∀ m n, c.machine m n → m.env.depth < m.env.config.maxCallDepth →
      Alike c (emit (.call procedure.name (m.env.depth + 1)))
        (emit (.call procedure.name (m.env.depth + 1))) ∧
      ∀ frame, Alike c (withFrame frame (self procedure.body))
        (withFrame frame (other procedure.body))) :
    Alike c (invoke self procedure bindings span) (invoke other procedure bindings span) := by
  refine .environment fun m n alike => ?_
  have full := exhausted m n alike
  have room := called m n alike
  rw [depth m n alike, limit m n alike] at full room ⊢
  split
  · exact .throw (respected.ordinary _ rfl)
  · split
    · exact .throw (full (by assumption))
    · obtain ⟨noted, body⟩ := room (by omega)
      exact noted.bind fun _ => body _

theorem alike_value (respected : c.Respected) (evaluated : ∀ expr, Alike c (self expr) (other expr))
    (invoked : ∀ procedure bindings span,
      Alike c (invoke self procedure bindings span) (invoke other procedure bindings span))
    (expr : Expr) : Alike c (value self expr) (value other expr) := by
  have moved (expr : Expr) : Follows c.simulation () Eq (self expr) (other (expr.relocate id)) := by
    rw [Expr.relocate_id]
    exact alike_iff.mp (evaluated expr)
  have called (meant rival : Procedure) (same : meant = rival) (bindings peers : List Binding)
      (bound : List.Forall₂ c.simulation.Binds bindings peers) (span : Span) :
      Follows c.simulation () Eq (invoke self meant bindings span)
        (invoke other rival peers (id span)) := by
    rw [same, Simulation.Binds.eq_all (fun _ _ => id) bound]
    exact alike_iff.mp (invoked rival peers span)
  have placed : ∀ span, c.simulation.place span (id span) := fun _ => rfl
  have followed := follows_value respected.lawful placed
    (fun procedure => procedure.relocate_id.symm) moved called (fun _ _ _ => False.elim) expr
  rw [Expr.relocate_id] at followed
  exact alike_iff.mpr followed

end Rules

end LineLisp
