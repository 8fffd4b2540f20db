import LineLisp.Proofs.Frame
import LineLisp.Proofs.Simulation.Evaluation

/-! Arguments in the place of parameters.
A number or a truth value that is passed to a procedure might as well stand in
its body, wherever evaluation comes across a reference to the parameter. What
the parameter's name is defined as on the way makes no difference, as there is no
definition of a parameter. -/
namespace LineLisp

open Run

namespace Binding

def isConstant : Binding → Bool
  | number _ | boolean _ => true
  | procedure _ | void => false

def literal? (span : Span) : Binding → Option Expr
  | number value => some (.number value span)
  | boolean value => some (.boolean value span)
  | procedure _ | void => none

end Binding

namespace Expr

mutual

def substitute (frame : Frame) : Expr → Expr
  | number value span => .number value span
  | boolean value span => .boolean value span
  | name ident => ((frame.lookup ident.text).bind (·.literal? ident.span)).getD (.name ident)
  | form head operands span =>
    if Operator.ofName? head.text = some .define then
      .form head (substituteDefinition frame operands) span
    else .form head (substituteAll frame operands) span

def substituteDefinition (frame : Frame) : List Expr → List Expr
  | [.name target, body] => [.name target, body.substitute frame]
  | operands => operands

def substituteAll (frame : Frame) : List Expr → List Expr
  | [] => []
  | operand :: rest => operand.substitute frame :: substituteAll frame rest

end

variable {frame : Frame} {head : Name} {operands : List Expr} {span : Span}

theorem substituteAll_eq_map (operands : List Expr) :
    substituteAll frame operands = operands.map (·.substitute frame) := by
  induction operands with
  | nil => rfl
  | cons operand rest ih => rw [substituteAll, ih, List.map_cons]

theorem substituteDefinition_of_length (count : operands.length ≠ 2) :
    substituteDefinition frame operands = operands := by
  rw [substituteDefinition.eq_def]
  split
  · exact absurd rfl count
  · rfl

theorem substitute_form (other : Operator.ofName? head.text ≠ some .define) :
    (form head operands span).substitute frame =
      .form head (operands.map (·.substitute frame)) span := by
  rw [substitute, if_neg other, substituteAll_eq_map]

theorem substitute_define (defining : Operator.ofName? head.text = some .define) :
    (form head operands span).substitute frame =
      .form head (substituteDefinition frame operands) span := by
  rw [substitute, if_pos defining]

theorem substitute_name {ident : Name} {binding : Binding} {literal : Expr}
    (bound : frame.lookup ident.text = some binding)
    (constant : binding.literal? ident.span = some literal) :
    (name ident).substitute frame = literal := by
  rw [substitute, bound, Option.bind_some, constant, Option.getD_some]

theorem substitute_name_of_lookup {ident : Name} (unbound : frame.lookup ident.text = none) :
    (name ident).substitute frame = .name ident := by
  rw [substitute, unbound]
  rfl

theorem span_literal {binding : Binding} {literal : Expr}
    (constant : binding.literal? span = some literal) : literal.span = span := by
  cases binding with
  | number | boolean =>
    cases constant
    rfl
  | procedure | void => cases constant

/-- A literal stands where the reference stood. -/
@[simp] theorem span_substitute (frame : Frame) (expr : Expr) :
    (expr.substitute frame).span = expr.span := by
  cases expr with
  | number | boolean => rfl
  | name ident =>
    rw [substitute]
    cases replaced : (frame.lookup ident.text).bind (·.literal? ident.span) with
    | none => rfl
    | some literal =>
      obtain ⟨binding, -, constant⟩ := Option.bind_eq_some_iff.mp replaced
      exact span_literal constant
  | form head operands span =>
    rw [substitute]
    split <;> rfl

mutual

theorem substitute_nil : ∀ expr : Expr, expr.substitute [] = expr
  | number _ _ | boolean _ _ | name _ => rfl
  | form head operands span => by
    rw [substitute, substituteDefinition_nil operands, substituteAll_nil operands, ite_self]

theorem substituteDefinition_nil (operands : List Expr) :
    substituteDefinition [] operands = operands := by
  rw [substituteDefinition.eq_def]
  split
  · rename_i target body
    rw [substitute_nil body]
  · rfl

theorem substituteAll_nil : ∀ operands : List Expr, substituteAll [] operands = operands
  | [] => rfl
  | operand :: rest => by rw [substituteAll, substitute_nil operand, substituteAll_nil rest]

end

end Expr

def Event.WithinCall (stack : CallStack) : Event → Prop
  | .evaluating _ env => env.depth = stack.depth → env.stack = stack
  | _ => True

theorem Event.withinCall_of_isDefinition {stack : CallStack} {event : Event}
    (defining : event.isDefinition = true) : event.WithinCall stack := by
  cases event with
  | evaluating => cases defining
  | _ => trivial

/-- Two stacks of calls, the second without constants that the first binds in its innermost call.
They are those of the call `outermost` or of calls that are made inside it. -/
structure Inlining where
  outermost : CallStack
  constants : Frame
  first : CallStack
  second : CallStack
  inside : first = outermost ∨ outermost.depth < first.depth
  depth : first.depth = second.depth
  constant : ∀ name binding, constants.lookup name = some binding → binding.isConstant = true
  top : ∀ name, (first.frames.headD []).lookup name =
    (constants.lookup name).or ((second.frames.headD []).lookup name)

namespace Inlining

def ofArguments (stack : CallStack) (parameters : List String) {arguments : List Binding}
    (constant : ∀ argument ∈ arguments, argument.isConstant = true) : Inlining where
  outermost := stack.push (.ofArguments parameters arguments)
  constants := .ofArguments parameters arguments
  first := stack.push (.ofArguments parameters arguments)
  second := stack.push []
  inside := .inl rfl
  depth := rfl
  constant := by
    intro name binding bound
    obtain ⟨front, back, entries, -⟩ := List.lookup_eq_some_iff.mp bound
    have member : (name, binding) ∈ Frame.ofArguments parameters arguments := by simp [entries]
    exact constant _ (List.of_mem_zip (List.mem_reverse.mp member)).2
  top _ := Option.or_none.symm

def call (level : Inlining) (frame : Frame) : Inlining where
  outermost := level.outermost
  constants := []
  first := level.first.push frame
  second := level.second.push frame
  inside := by
    rcases level.inside with same | deeper
    · exact .inr (same ▸ Nat.lt_succ_self _)
    · exact .inr (Nat.lt_succ_of_lt deeper)
  depth := congrArg (· + 1) level.depth
  constant := nofun
  top _ := rfl

structure Apart (level : Inlining) (m n : Machine) : Prop where
  stack : m.env.stack = level.first
  other : n.env = { m.env with stack := level.second }
  shown : ∀ event ∈ m.log, event.WithinCall level.outermost

def simulation : Simulation Inlining :=
  .plain (.of fun _ => False) Apart call

variable {level : Inlining} {m n : Machine}

namespace Apart

theorem note (apart : Apart level m n) {event other : Event}
    (shown : event.WithinCall level.outermost) :
    Apart level { m with log := event :: m.log } { n with log := other :: n.log } :=
  { apart with shown := List.forall_mem_cons.mpr ⟨shown, apart.shown⟩ }

theorem evaluating (apart : Apart level m n) (expr : Expr) {event : Event} :
    Apart level { m with log := .evaluating expr m.env :: m.log }
      { n with log := event :: n.log } := by
  refine apart.note fun depth => ?_
  rw [Environment.depth, apart.stack] at depth
  rw [apart.stack]
  exact level.inside.resolve_right (Nat.not_lt.mpr (Nat.le_of_eq depth))

theorem settings (apart : Apart level m n) : m.env.config = n.env.config ∧
    m.env.nesting = n.env.nesting ∧ m.env.depth = n.env.depth := by
  rw [apart.other, Environment.depth, Environment.depth, apart.stack]
  exact ⟨rfl, rfl, level.depth⟩

theorem define (apart : Apart level m n) (name : String) (binding : Binding) :
    Apart level { m with env := m.env.define name binding }
      { n with env := n.env.define name binding } :=
  ⟨apart.stack, by rw [apart.other]; rfl, apart.shown⟩

theorem enter (apart : Apart level m n) :
    Apart level { m with env := m.env.enter } { n with env := n.env.enter } :=
  ⟨apart.stack, by rw [apart.other]; rfl, apart.shown⟩

theorem leave (apart : Apart level m n) :
    Apart level { m with env := m.env.leave } { n with env := n.env.leave } :=
  ⟨apart.stack, by rw [apart.other]; rfl, apart.shown⟩

theorem push (apart : Apart level m n) (frame : Frame) :
    Apart (level.call frame) { m with env := m.env.push frame }
      { n with env := n.env.push frame } :=
  ⟨congrArg (CallStack.push · frame) apart.stack, by rw [apart.other]; rfl, apart.shown⟩

theorem pop {frame : Frame} (apart : Apart (level.call frame) m n) :
    Apart level { m with env := m.env.pop } { n with env := n.env.pop } where
  stack := (congrArg CallStack.pop apart.stack).trans (CallStack.pop_push _ _)
  other := by
    rw [apart.other]
    exact congrArg (fun stack => { m.env with stack }) (CallStack.pop_push level.second frame)
  shown := apart.shown

theorem lookup (apart : Apart level m n) {name : String}
    (other : level.constants.lookup name = none) : m.env.lookup name = n.env.lookup name := by
  have top := level.top name
  rw [other, Option.none_or] at top
  rw [apart.other]
  unfold Environment.lookup Environment.top
  rw [apart.stack, top]

theorem lookup_constant (apart : Apart level m n) {name : String} {binding : Binding}
    (bound : level.constants.lookup name = some binding) : m.env.lookup name = some binding := by
  have top := level.top name
  rw [bound, Option.some_or] at top
  unfold Environment.lookup Environment.top
  rw [apart.stack, top, Option.some_or]

theorem globals (apart : Apart level m n) (name : String) :
    Option.Rel simulation.Binds (m.env.globals.get? name) (n.env.globals.get? name) := by
  rw [apart.other]
  exact Simulation.Binds.rel_self (fun _ => rfl) _

end Apart

theorem fair : simulation.Fair where
  fatal same := by rw [show _ = _ from same]
  ordinary _ _ same := by rw [show _ = _ from same]; rfl
  signature same := by rw [show _ = _ from same]; exact ⟨rfl, rfl⟩
  note apart event defining := Apart.note apart (event.withinCall_of_isDefinition defining)
  recover := by
    rintro level callee err _ ⟨⟩ -
    refine Simulation.follows_recover (fun apart => ?_) callee rfl fun _ _ apart => ?_
    · rw [apart.settings.1]
    · exact Apart.note apart trivial

theorem follows_define (name : String) (binding : Binding) :
    Follows simulation level Eq (Run.define name binding) (Run.define name binding) where
  ends _ _ apart := .ok rfl (Apart.define apart name binding)
  keeps := .define name binding

variable {self other : Expr → Run Value}

theorem follows_name (ident : Name) :
    Follows simulation level Eq (Rules.value self (.name ident))
      (Rules.value other ((Expr.name ident).substitute level.constants)) := by
  cases bound : level.constants.lookup ident.text with
  | none =>
    rw [Expr.substitute_name_of_lookup bound]
    refine Rules.follows_reference rfl (fun m n apart => ?_) fun _ _ _ _ => rfl
    rw [Apart.lookup apart bound]
  | some binding =>
    have shown (m n : Machine) (apart : Apart level m n) :
        Rules.value self (.name ident) m = .ok (binding.resolve ident.text) m :=
      Rules.reference_eq (apart.lookup_constant bound)
    have constant := level.constant _ _ bound
    cases binding with
    | number value | boolean value =>
      rw [Expr.substitute_name bound rfl]
      refine ⟨fun m n apart => ?_, .pure _⟩
      rw [shown m n apart]
      exact .ok rfl apart
    | procedure | void => cases constant

theorem follows_definition (operands : List Expr) (span : Span)
    (evaluated : ∀ expr,
      Follows simulation level Eq (self expr) (other (expr.substitute level.constants))) :
    Follows simulation level Eq (Rules.define self operands span)
      (Rules.define other (Expr.substituteDefinition level.constants operands) span) := by
  have refused (fault : DefineFault) (span : Span) :
      Follows simulation level (@Eq Value) (throw (.malformedDefine fault span))
        (throw (.malformedDefine fault span)) :=
    .throw rfl
  match operands with
  | [] | [_] | _ :: _ :: _ :: _ =>
    rw [Expr.substituteDefinition_of_length (by simp)]
    exact refused .shape span
  | [target, body] =>
    cases target with
    | number | boolean => exact refused .target _
    | name ident =>
      rw [Expr.substituteDefinition]
      exact Rules.follows_defineValue fair rfl (evaluated body) fun value => follows_define _ _
    | form callee parameters place =>
      have followed : Follows simulation level Eq (Rules.defineProcedure callee parameters body)
          (Rules.defineProcedure callee (parameters.map id) body) :=
        Rules.follows_defineProcedure fair rfl rfl (fun _ _ => rfl) (fun _ _ => rfl)
          fun _ _ _ => follows_define _ _
      rwa [List.map_id] at followed

theorem follows_invoke (meant : Procedure) {bindings : List Binding}
    (bound : List.Forall₂ simulation.Binds bindings bindings) (span : Span)
    (called : ∀ frame expr, Follows simulation (level.call frame) Eq (self expr) (other expr))
    (bodies : ∀ expr, Keeps simulation (other expr)) :
    Follows simulation level Eq (Rules.invoke self meant bindings span)
      (Rules.invoke other meant bindings span) := by
  have framed (frame : Frame) : Follows simulation level Eq (withFrame frame (self meant.body))
      (withFrame frame (other meant.body)) :=
    (called frame meant.body).bracket (fun _ _ apart => Apart.push apart frame)
      (fun _ _ => Apart.pop) fun _ => rfl
  refine Rules.follows_invoke fair rfl bound rfl (fun m n apart full => ?_)
    (fun m n apart free _ => ⟨?_, Apart.note apart trivial, framed _⟩) (bodies _)
  · obtain ⟨config, -, depth⟩ := Apart.settings apart
    rw [config, depth] at full
    exact .inl ⟨full, congrArg _ depth⟩
  · obtain ⟨config, -, depth⟩ := Apart.settings apart
    rwa [← config, ← depth]

/-- The rule for an expression and that for it with constants in it follow each other if the
evaluations that they start do. -/
theorem follows_value
    (evaluated : ∀ expr,
      Follows simulation level Eq (self expr) (other (expr.substitute level.constants)))
    (called : ∀ frame expr, Follows simulation (level.call frame) Eq (self expr) (other expr))
    (bodies : ∀ expr, Keeps simulation (other expr)) (expr : Expr) :
    Follows simulation level Eq (Rules.value self expr)
      (Rules.value other (expr.substitute level.constants)) := by
  cases expr with
  | number x span => exact .pure rfl
  | boolean b span => exact .pure rfl
  | name ident => exact follows_name ident
  | form head operands span =>
    have sub : ∀ operand ∈ operands, Rules.Counterpart simulation level self other operand
        (operand.substitute level.constants) :=
      fun operand _ => ⟨(Expr.span_substitute _ operand).symm, evaluated operand⟩
    by_cases defining : Operator.ofName? head.text = some .define
    · rw [Expr.substitute_define defining]
      unfold Rules.value
      dsimp only
      rw [defining]
      exact follows_definition operands span evaluated
    · rw [Expr.substitute_form defining]
      unfold Rules.value
      dsimp only
      cases builtin : Operator.ofName? head.text with
      | some op =>
        exact Rules.follows_operate fair op rfl sub fun same => absurd (same ▸ builtin) defining
      | none =>
        have found : Follows simulation level simulation.procedure (Rules.callable head)
            (Rules.callable head) :=
          Rules.follows_callable rfl (fun _ _ apart => Apart.globals apart head.text) (fun _ _ _ _ => rfl)
            fun _ _ _ _ => rfl
        refine Rules.follows_apply fair rfl found sub ?_ bodies
        rintro meant _ ⟨⟩ bindings peers bound -
        obtain rfl := Simulation.Binds.eq_all (fun _ _ => id) bound
        exact follows_invoke meant bound span called bodies

theorem follows (room : Nat) (level : Inlining) (expr : Expr) :
    Follows simulation level Eq (evaluateWithin room expr)
      (evaluateWithin room (expr.substitute level.constants)) := by
  induction room generalizing level expr with
  | zero =>
    refine ⟨fun m n apart => ?_, keeps_evaluateWithin _ _ _⟩
    exact .error (congrArg EvalError.nestingTooDeep (Apart.settings apart).2.1) apart
  | succ room ih =>
    have called (frame : Frame) (expr : Expr) :
        Follows simulation (level.call frame) Eq (evaluateWithin room expr)
          (evaluateWithin room expr) := by
      have inside := ih (level.call frame) expr
      rwa [show (level.call frame).constants = [] from rfl, Expr.substitute_nil] at inside
    have valued := follows_value (ih level) called (keeps_evaluateWithin _ room) expr
    have whole := Rules.follows_evaluation valued (fun _ _ => Apart.enter) (fun _ _ => Apart.leave)
      fun _ _ apart => Apart.evaluating apart expr
    simpa only [evaluateWithin, spread_eq] using whole

theorem evaluate {env other : Environment} (apart : Apart level { env } { env := other })
    (expr : Expr) :
    (other.evaluate (expr.substitute level.constants)).result = (env.evaluate expr).result ∧
      Apart level ⟨(env.evaluate expr).env, (env.evaluate expr).log.reverse⟩
        ⟨(other.evaluate (expr.substitute level.constants)).env, []⟩ := by
  have rooms : env.room = other.room := by
    obtain ⟨config, nesting, -⟩ := apart.settings
    exact congrArg₂ (fun config nesting => config.maxEvalDepth - nesting) config nesting
  have ends : Ends simulation level Eq (expr.evaluate { env })
      ((expr.substitute level.constants).evaluate { env := other }) := by
    change Ends _ _ _ (evaluateWithin env.room _ _) (evaluateWithin other.room _ _)
    rw [← rooms]
    exact (follows env.room level expr).ends _ _ apart
  rcases ends.outcome_eq id with ⟨same, stack, settled, shown⟩ | ⟨_, _, lost⟩
  · rw [Environment.evaluate_eq, Environment.evaluate_eq, env_outcome, env_outcome, log_outcome,
      List.reverse_reverse]
    exact ⟨same, stack, settled, shown⟩
  · exact lost.elim

end Inlining

namespace Environment

end Environment

end LineLisp
