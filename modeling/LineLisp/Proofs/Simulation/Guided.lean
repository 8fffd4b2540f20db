import LineLisp.Proofs.Positions
import LineLisp.Proofs.Semantics.Rules
import LineLisp.Proofs.Simulation.Evaluation

/-! Evaluation of some expressions.
A guide says which expressions are evaluated at a level. If evaluation leads from
these to no others, then what it asks of machines has to be granted for the names
in these alone, and a limit that it cannot hit there is no reason to fail. The
rank of a level is the number of evaluations that may be started inside one
another for certain. -/
namespace LineLisp

open Run

inductive Expr.Misnames (env : Environment) : Expr → EvalError → Prop
  | reference {ident} (unbound : env.lookup ident.text = none) :
    Misnames env (.name ident) (.undefined ident.text ident.span)
  | callee {callee operands span} (foreign : Operator.ofName? callee.text = none)
    (unbound : env.globals.get? callee.text = none) :
    Misnames env (.form callee operands span) (.undefined callee.text callee.span)
  | other {callee operands span} (foreign : Operator.ofName? callee.text = none)
    (data : (env.globals.get? callee.text).any (·.isData) = true) :
    Misnames env (.form callee operands span) (.notAProcedure callee.text callee.span)

structure Guide (Level : Type) where
  machine : Level → Machine → Machine → Prop
  error : EvalError → Prop
  procedure : Procedure → Prop
  fit : Level → Expr → Prop
  inner : Level → Level
  call : Level → Frame → Level
  rank : Level → Nat

namespace Guide

variable {Level : Type} {g : Guide Level}

def simulation (g : Guide Level) : Simulation Level where
  toLoss := .of fun _ => False
  machine := g.machine
  call := g.call
  error err other := err = other ∧ g.error err
  place := Eq
  procedure meant peer := meant = peer ∧ g.procedure meant

structure Leads (g : Guide Level) : Prop where
  settings : ∀ {level m n}, g.machine level m n → m.env.config = n.env.config ∧
    m.env.nesting = n.env.nesting ∧ m.env.depth = n.env.depth
  ordinary : ∀ {err : EvalError}, err.isFatal = false → err.isNaming = false → g.error err
  misnamed : ∀ {level expr err m n}, g.fit level expr → g.machine (g.inner level) m n →
    expr.Misnames m.env err → g.error err
  exhausted : ∀ {level callee operands span m n}, g.fit level (.form callee operands span) →
    Operator.ofName? callee.text = none → g.machine (g.inner level) m n →
    m.env.config.maxCallDepth ≤ m.env.depth → g.error (.stackExhausted m.env.depth)
  full : ∀ {level expr m n}, g.fit level expr → g.rank level = 0 → g.machine level m n →
    g.error (.nestingTooDeep m.env.nesting)
  ranked : ∀ level, g.rank (g.inner level) ≤ g.rank level - 1
  called : ∀ level frame, g.rank (g.call level frame) ≤ g.rank level
  operand : ∀ {level expr operand}, g.fit level expr → operand ∈ expr.evaluands →
    g.fit (g.inner level) operand
  body : ∀ {level callee operands span meant bindings m n},
    g.fit level (.form callee operands span) → Operator.ofName? callee.text = none →
    g.procedure meant → g.machine (g.inner level) m n →
    m.env.depth < m.env.config.maxCallDepth → meant.arity = bindings.length →
    g.fit (g.call (g.inner level) (.ofArguments meant.parameters bindings)) meant.body
  lookup : ∀ {level ident m n}, g.fit level (.name ident) → g.machine (g.inner level) m n →
    (m.env.lookup ident.text).map (·.resolve ident.text) =
      (n.env.lookup ident.text).map (·.resolve ident.text)
  callee : ∀ {level callee operands span m n}, g.fit level (.form callee operands span) →
    Operator.ofName? callee.text = none → g.machine (g.inner level) m n →
    m.env.globals.get? callee.text = n.env.globals.get? callee.text ∧
      ∀ meant, n.env.globals.get? callee.text = some (.procedure meant) → g.procedure meant
  defineValue : ∀ {level head name body span m n},
    g.fit level (.form head [.name name, body] span) →
    Operator.ofName? head.text = some .define → g.machine (g.inner level) m n → ∀ value,
    g.machine (g.inner level) { m with env := m.env.define name.text (.ofValue value) }
      { n with env := n.env.define name.text (.ofValue value) }
  defineProcedure : ∀ {level head callee} {idents : List Name} {place body span m n},
    g.fit level (.form head [.form callee (idents.map .name) place, body] span) →
    Operator.ofName? head.text = some .define → Operator.ofName? callee.text = none →
    g.machine (g.inner level) m n → g.machine (g.inner level)
      { m with env := m.env.define callee.text (.procedure ⟨callee.text, idents.map (·.text), body⟩) }
      { n with env := n.env.define callee.text (.procedure ⟨callee.text, idents.map (·.text), body⟩) }
  note : ∀ {level m n} {event : Event}, g.machine level m n →
    (∀ expr env, event ≠ .evaluating expr env) → (∀ err, event.dropped? = some err → g.error err) →
    g.machine level { m with log := event :: m.log } { n with log := event :: n.log }
  evaluating : ∀ {level expr m n}, g.fit level expr → g.machine (g.inner level) m n →
    g.machine (g.inner level) { m with log := .evaluating expr m.env :: m.log }
      { n with log := .evaluating expr n.env :: n.log }
  enter : ∀ {level m n}, g.machine level m n →
    g.machine (g.inner level) { m with env := m.env.enter } { n with env := n.env.enter }
  leave : ∀ {level m n}, g.machine (g.inner level) m n →
    g.machine level { m with env := m.env.leave } { n with env := n.env.leave }
  push : ∀ {level m n} {frame : Frame}, g.machine level m n →
    (∀ entry ∈ frame, entry.2.isData = true) → g.machine (g.call level frame)
      { m with env := m.env.push frame } { n with env := n.env.push frame }
  pop : ∀ {level frame m n}, g.machine (g.call level frame) m n →
    g.machine level { m with env := m.env.pop } { n with env := n.env.pop }

namespace Leads

theorem fair (leads : g.Leads) : g.simulation.Fair where
  fatal stands := by rw [stands.1]
  ordinary := by
    intro err first second regular unnamed same
    rw [show first = second from same]
    exact ⟨rfl, leads.ordinary (by rwa [EvalError.isFatal_relocate])
      (by rwa [EvalError.isNaming_relocate])⟩
  signature same := by rw [same.1]; exact ⟨rfl, rfl⟩
  note meet event defining :=
    leads.note meet (by rintro _ _ rfl; cases defining) (by cases event <;> cases defining <;> nofun)
  recover := by
    intro level callee err other stands _
    obtain ⟨rfl, allowed⟩ := stands
    refine Simulation.follows_recover (fun meet => ?_) callee ⟨rfl, allowed⟩ fun m n meet => ?_
    · rw [(leads.settings meet).1]
    · refine leads.note meet nofun ?_
      rintro _ ⟨⟩
      exact allowed

theorem follows_define (leads : g.Leads) {self other : Expr → Run Value} {level : Level}
    {head : Name} {operands : List Expr} {span : Span}
    (fits : g.fit level (.form head operands span))
    (defining : Operator.ofName? head.text = some .define)
    (evaluated : ∀ operand, g.fit (g.inner level) operand →
      Follows g.simulation (g.inner level) Eq (self operand) (other operand)) :
    Follows g.simulation (g.inner level) Eq (Rules.define self operands span)
      (Rules.define other operands span) := by
  have refused (fault : DefineFault) (span : Span) :
      Follows g.simulation (g.inner level) (@Eq Value) (throw (.malformedDefine fault span))
        (throw (.malformedDefine fault span)) :=
    .throw ⟨rfl, leads.ordinary rfl rfl⟩
  match operands with
  | [] | [_] | _ :: _ :: _ :: _ => exact refused _ _
  | [target, body] =>
    cases target with
    | number | boolean => exact refused _ _
    | name ident =>
      have inside : g.fit (g.inner level) body :=
        leads.operand fits (by simp [Expr.evaluands_define defining])
      refine Rules.follows_defineValue leads.fair rfl (evaluated body inside) fun value => ?_
      exact ⟨fun m n meet => .ok rfl (leads.defineValue fits defining meet value), .define _ _⟩
    | form callee parameters place =>
      have followed : Follows g.simulation (g.inner level) Eq
          (Rules.defineProcedure callee parameters body)
          (Rules.defineProcedure callee (parameters.map id) body) := by
        refine Rules.follows_defineProcedure leads.fair rfl rfl (fun _ _ => rfl) (fun _ _ => rfl) ?_
        intro names foreign named
        obtain ⟨idents, rfl, rfl⟩ := Rules.names_of_parameterNames named
        exact ⟨fun m n meet => .ok rfl (leads.defineProcedure fits defining foreign meet),
          .define _ _⟩
      rwa [List.map_id] at followed

theorem follows_callable (leads : g.Leads) {level : Level} {callee : Name} {operands : List Expr}
    {span : Span} (fits : g.fit level (.form callee operands span))
    (foreign : Operator.ofName? callee.text = none) :
    Follows g.simulation (g.inner level) g.simulation.procedure (Rules.callable callee)
      (Rules.callable callee) := by
  refine Rules.follows_callable rfl (fun m n meet => ?_)
    (fun _ _ meet unbound => ⟨rfl, leads.misnamed fits meet (.callee foreign unbound)⟩)
    fun _ _ meet data => ⟨rfl, leads.misnamed fits meet (.other foreign data)⟩
  obtain ⟨same, known⟩ := leads.callee fits foreign meet
  rw [same]
  cases bound : n.env.globals.get? callee.text with
  | none => exact .none
  | some binding =>
    cases binding with
    | procedure meant => exact .some (.procedure ⟨rfl, known meant bound⟩)
    | number value => exact .some (.number value)
    | boolean value => exact .some (.boolean value)
    | void => exact .some .void

theorem follows_invoke (leads : g.Leads) {self other : Expr → Run Value} {level : Level}
    {callee : Name} {operands : List Expr} {span : Span}
    (fits : g.fit level (.form callee operands span))
    (foreign : Operator.ofName? callee.text = none)
    (called : ∀ frame body, g.fit (g.call (g.inner level) frame) body →
      Follows g.simulation (g.call (g.inner level) frame) Eq (self body) (other body))
    (bodies : ∀ expr, Keeps g.simulation (other expr)) {meant : Procedure}
    (known : g.procedure meant) {bindings : List Binding}
    (data : ∀ binding ∈ bindings, binding.isData = true)
    (bound : List.Forall₂ g.simulation.Binds bindings bindings) :
    Follows g.simulation (g.inner level) Eq (Rules.invoke self meant bindings span)
      (Rules.invoke other meant bindings span) := by
  have framed : ∀ entry ∈ Frame.ofArguments meant.parameters bindings, entry.2.isData = true :=
    fun entry member => data _ (List.of_mem_zip (List.mem_reverse.mp member)).2
  refine Rules.follows_invoke leads.fair ⟨rfl, known⟩ bound rfl ?_ ?_ (bodies _)
  · intro m n meet full
    obtain ⟨config, -, depth⟩ := leads.settings meet
    rw [config, depth] at full
    exact .inl ⟨full, congrArg _ depth, leads.exhausted fits foreign meet (by rwa [config, depth])⟩
  · intro m n meet free equal
    obtain ⟨config, -, depth⟩ := leads.settings meet
    refine ⟨by rwa [← config, ← depth], ?_, ?_⟩
    · rw [depth]
      exact leads.note meet nofun nofun
    · refine (called _ _ (leads.body fits foreign known meet free equal)).bracket ?_ ?_ fun _ => rfl
      · exact fun _ _ meet => leads.push meet framed
      · exact fun _ _ => leads.pop

/-- The rules follow each other if the evaluations that they start do. -/
theorem follows_value (leads : g.Leads) {self other : Expr → Run Value} {level : Level} {expr : Expr}
    (fits : g.fit level expr)
    (evaluated : ∀ operand, g.fit (g.inner level) operand →
      Follows g.simulation (g.inner level) Eq (self operand) (other operand))
    (called : ∀ frame body, g.fit (g.call (g.inner level) frame) body →
      Follows g.simulation (g.call (g.inner level) frame) Eq (self body) (other body))
    (bodies : ∀ expr, Keeps g.simulation (other expr)) :
    Follows g.simulation (g.inner level) Eq (Rules.value self expr) (Rules.value other expr) := by
  cases expr with
  | number x span => exact .pure rfl
  | boolean b span => exact .pure rfl
  | name ident =>
    exact Rules.follows_reference rfl (fun _ _ => leads.lookup fits)
      fun _ _ meet unbound => ⟨rfl, leads.misnamed fits meet (.reference unbound)⟩
  | form head operands span =>
    have sub (all : (Expr.form head operands span).evaluands = operands) :
        ∀ operand ∈ operands, Rules.Counterpart g.simulation (g.inner level) self other operand
          (id operand) := by
      intro operand member
      exact ⟨rfl, evaluated operand (leads.operand fits (by rwa [all]))⟩
    unfold Rules.value
    dsimp only
    cases builtin : Operator.ofName? head.text with
    | some op =>
      dsimp only
      by_cases defining : op = .define
      · subst defining
        exact leads.follows_define fits builtin evaluated
      · have all : (Expr.form head operands span).evaluands = operands :=
          Expr.evaluands_form (by simpa [builtin] using defining)
        have followed : Follows g.simulation (g.inner level) Eq (Rules.operate self op operands span)
            (Rules.operate other op (operands.map id) span) :=
          Rules.follows_operate leads.fair op rfl (sub all) fun same => absurd same defining
        rwa [List.map_id] at followed
    | none =>
      have all : (Expr.form head operands span).evaluands = operands :=
        Expr.evaluands_form (by simp [builtin])
      have found := leads.follows_callable fits builtin
      have followed : Follows g.simulation (g.inner level) Eq (Rules.apply self head operands span)
          (Rules.apply other head (operands.map id) span) := by
        refine Rules.follows_apply leads.fair rfl found (sub all) ?_ bodies
        intro meant rival stands bindings peers bound data
        obtain ⟨rfl, known⟩ := stands
        obtain rfl := Simulation.Binds.eq_all (fun _ _ => And.left) bound
        exact leads.follows_invoke fits builtin called bodies known data bound
      rwa [List.map_id] at followed

/-- With room for as many evaluations as the level's rank says, runs follow each other. -/
theorem follows (leads : g.Leads) {level : Level} {expr : Expr} (fits : g.fit level expr)
    {room : Nat} (enough : g.rank level ≤ room) :
    Follows g.simulation level Eq (evaluateWithin room expr) (evaluateWithin room expr) := by
  induction room generalizing level expr with
  | zero =>
    refine ⟨fun m n meet => ?_, keeps_evaluateWithin _ _ _⟩
    have nesting := congrArg EvalError.nestingTooDeep (leads.settings meet).2.1
    exact .error ⟨nesting, leads.full fits (Nat.le_zero.mp enough) meet⟩ meet
  | succ room ih =>
    have inside : g.rank (g.inner level) ≤ room := by
      have ranked := leads.ranked level
      omega
    have valued := leads.follows_value fits (fun operand fits => ih fits inside)
      (fun frame body fits => ih fits (Nat.le_trans (leads.called _ frame) inside))
      (keeps_evaluateWithin _ room)
    have whole := Rules.follows_evaluation valued (fun _ _ => leads.enter) (fun _ _ => leads.leave)
      fun _ _ => leads.evaluating fits
    simpa only [evaluateWithin, spread_eq] using whole

/-- What two evaluations of an expression that is fit end with. -/
theorem evaluate (leads : g.Leads) {level : Level} {env other : Environment} {expr : Expr}
    (fits : g.fit level expr) (meet : g.machine level { env } { env := other })
    (enough : g.rank level ≤ env.room) :
    (env.evaluate expr).result = (other.evaluate expr).result ∧
      g.machine level ⟨(env.evaluate expr).env, (env.evaluate expr).log.reverse⟩
        ⟨(other.evaluate expr).env, (other.evaluate expr).log.reverse⟩ ∧
      ∀ err, (env.evaluate expr).result = .error err → g.error err := by
  obtain ⟨config, nesting, -⟩ := leads.settings meet
  dsimp only at config nesting
  have rooms : other.room = env.room := by rw [Environment.room, Environment.room, config, nesting]
  have ends := (leads.follows fits enough).ends _ _ meet
  have first : env.evaluate expr = outcome (evaluateWithin env.room expr { env }) := rfl
  have second : other.evaluate expr = outcome (evaluateWithin other.room expr { env := other }) := rfl
  rw [first, second, rooms]
  generalize evaluateWithin env.room expr { env } = left,
    evaluateWithin env.room expr { env := other } = right at ends
  cases ends with
  | ok same meet =>
    subst same
    refine ⟨rfl, ?_, nofun⟩
    simp only [outcome, List.reverse_reverse]
    exact meet
  | error stands meet =>
    obtain ⟨rfl, allowed⟩ := stands
    refine ⟨rfl, ?_, ?_⟩
    · simp only [outcome, List.reverse_reverse]
      exact meet
    · rintro err ⟨⟩
      exact allowed
  | lost _ lost => exact lost.elim

end Leads

end Guide

end LineLisp
