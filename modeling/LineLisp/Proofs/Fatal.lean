import LineLisp.Proofs.Semantics.Adequacy
import LineLisp.Proofs.Simulation.Settings
import LineLisp.Proofs.Trace

/-! Errors about limits.
An evaluation in which no limit is hit goes the same way under higher ones. One
in which a limit is hit ends with the error about it, however deep inside that is. -/
namespace LineLisp

open Run

/-- The evaluation of `part` on `start` is one of those that make up the evaluation of `expr` on
`machine`: what the latter ends with is up to what the former does, all else being the same. -/
def Expr.Starts (expr : Expr) (machine : Machine) (part : Expr) (start : Machine) : Prop :=
  ∃ other : Expr → Run Value,
    (∀ peer m, (peer, m) ≠ (part, start) → other peer m = peer.evaluate m) ∧
      limited other expr machine ≠ expr.evaluate machine

inductive Expr.Nested (part : Expr) (start : Machine) : Expr → Machine → Prop
  | whole : Nested part start part start
  | inside {expr inner : Expr} {machine after : Machine} (starts : expr.Starts machine inner after)
    (nested : Nested part start inner after) : Nested part start expr machine

namespace Expr

variable {expr part : Expr} {machine start : Machine} {err : EvalError}

theorem follows_apart {self other : Expr → Run Value} {stop : Machine}
    (failed : self part start = .error err stop) (fatal : err.isFatal = true)
    (elsewhere : ∀ peer m, (peer, m) ≠ (part, start) → self peer m = other peer m) (peer : Expr) :
    Follows (.itself (.of (· = err))) () Eq (self peer) (other peer) := by
  refine ⟨fun m n same => ?_, fun _ _ lost => lost⟩
  obtain rfl : m = n := same
  by_cases here : (peer, m) = (part, start)
  · obtain ⟨rfl, rfl⟩ := Prod.mk.inj here
    rw [failed]
    exact .lost (.inl fatal) rfl
  · rw [elsewhere peer m here]
    exact .itself _

/-- The first fails with the error as soon as the second may go another way. -/
theorem limited_cases {self other : Expr → Run Value}
    (follows : ∀ peer, Follows (.itself (.of (· = err))) () Eq (self peer) (other peer))
    (expr : Expr) (machine : Machine) :
    limited self expr machine = limited other expr machine ∨
      ∃ after, limited self expr machine = .error err after := by
  by_cases full : machine.env.room = 0
  · rw [limited_refuses _ expr machine full, limited_refuses _ expr machine full]
    exact .inl rfl
  · have moved (level : Unit) (peer : Expr) :
        Follows (.itself (.of (· = err))) level Eq (self peer) (other (peer.relocate id)) := by
      rw [relocate_id]
      exact follows peer
    have ends := ((Simulation.sound_itself (.of (· = err))).step moved
      (fun peer => (follows peer).keeps) () expr).ends machine machine rfl
    rw [relocate_id] at ends
    rw [limited_proceeds _ expr machine full, limited_proceeds _ expr machine full]
    generalize nested (Rules.evaluation self expr) machine = left,
      nested (Rules.evaluation other expr) machine = right at ends ⊢
    cases ends with
    | ok stands meet => exact .inl (congrArg₂ EStateM.Result.ok stands meet)
    | error stands meet => exact .inl (congrArg₂ EStateM.Result.error stands meet)
    | lost _ same => exact .inr ⟨_, congrArg (EStateM.Result.error · _) same⟩

theorem Starts.fatal (starts : expr.Starts machine part start) (fatal : err.isFatal = true)
    (raised : ∃ after, part.evaluate start = .error err after) :
    ∃ after, expr.evaluate machine = .error err after := by
  obtain ⟨other, elsewhere, differs⟩ := starts
  obtain ⟨stop, raised⟩ := raised
  have follows := follows_apart raised fatal fun peer m apart => (elsewhere peer m apart).symm
  rw [evaluate_eq_limited] at differs ⊢
  rcases limited_cases follows expr machine with same | failed
  · exact absurd same.symm differs
  · exact failed

theorem Nested.fatal (nested : Nested part start expr machine) (fatal : err.isFatal = true)
    (raised : ∃ after, part.evaluate start = .error err after) :
    ∃ after, expr.evaluate machine = .error err after := by
  induction nested with
  | whole => exact raised
  | inside starts _ ih => exact starts.fatal fatal ih

structure Altered (part : Expr) (start : Machine) (err : EvalError) (other : Expr → Run Value) :
    Prop where
  here : other part start = .error err start
  elsewhere : ∀ peer m, (peer, m) ≠ (part, start) → other peer m = peer.evaluate m

theorem Altered.follows {other : Expr → Run Value} (altered : Altered part start err other)
    (fatal : err.isFatal = true) (peer : Expr) :
    Follows (.itself (.of (· = err))) () Eq (other peer) peer.evaluate :=
  follows_apart altered.here fatal altered.elsewhere peer

theorem Altered.follows_argument {other : Expr → Run Value} (altered : Altered part start err other)
    (fatal : err.isFatal = true) (callee : Name) (operand : Expr) :
    Follows (.itself (.of (· = err))) () Eq (Rules.argument other callee operand)
      (Rules.argument Expr.evaluate callee operand) :=
  have fair := (Simulation.sound_itself (.of (· = err))).toFair
  (Rules.follows_argument fair rfl (altered.follows fatal operand)).imp
    fun _ _ binds => binds.eq fun _ _ => id

theorem Altered.follows_arguments {other : Expr → Run Value} (altered : Altered part start err other)
    (fatal : err.isFatal = true) (callee : Name) (operands : List Expr) :
    Follows (.itself (.of (· = err))) () Eq (Rules.arguments other callee operands)
      (Rules.arguments Expr.evaluate callee operands) := by
  have fair := (Simulation.sound_itself (.of (· = err))).toFair
  have evaluated : ∀ operand ∈ operands, Rules.Counterpart (.itself (.of (· = err))) ()
      other Expr.evaluate operand (id operand) :=
    fun operand _ => ⟨rfl, altered.follows fatal operand⟩
  have followed : Follows _ _ _ _ (Rules.arguments Expr.evaluate callee (operands.map id)) :=
    Rules.follows_arguments fair rfl evaluated
  rw [List.map_id] at followed
  exact followed.imp fun _ _ bound => Simulation.Binds.eq_all (fun _ _ => id) bound

def Comes (part : Expr) (start : Machine) {α : Type} (body : (Expr → Run Value) → Run α)
    (machine : Machine) : Prop :=
  ∀ (other : Expr → Run Value) {err}, err.isFatal = true → Altered part start err other →
    ∃ after, body other machine = .error err after

namespace Comes

theorem here : Comes part start (· part) start :=
  fun _ _ _ altered => ⟨start, altered.here⟩

theorem bind {α β : Type} {body : (Expr → Run Value) → Run α}
    (comes : Comes part start body machine) (next : (Expr → Run Value) → α → Run β) :
    Comes part start (fun self => body self >>= next self) machine := by
  intro other err fatal altered
  obtain ⟨after, failed⟩ := comes other fatal altered
  change ∃ after, EStateM.bind (body other) (next other) machine = .error err after
  unfold EStateM.bind
  rw [failed]
  exact ⟨after, rfl⟩

theorem map {α β : Type} {body : (Expr → Run Value) → Run α}
    (comes : Comes part start body machine) (f : α → β) :
    Comes part start (fun self => f <$> body self) machine := by
  simp only [map_eq_pure_bind]
  exact comes.bind fun _ value => pure (f value)

theorem after {α β : Type} {body : (Expr → Run Value) → Run α}
    {next : (Expr → Run Value) → α → Run β} {value : α} {middle : Machine}
    (alike : ∀ {other err}, err.isFatal = true → Altered part start err other →
      Follows (.itself (.of (· = err))) () Eq (body other) (body Expr.evaluate))
    (done : body Expr.evaluate machine = .ok value middle)
    (comes : Comes part start (next · value) middle) :
    Comes part start (fun self => body self >>= next self) machine := by
  intro other err fatal altered
  -- What is done already is done again, or fails with the error.
  have ends := (alike fatal altered).ends machine machine rfl
  change ∃ after, EStateM.bind (body other) (next other) machine = .error err after
  unfold EStateM.bind
  rw [done] at ends
  generalize body other machine = first at ends ⊢
  cases ends with
  | ok stands meet =>
    obtain rfl := stands
    obtain rfl := meet
    exact comes other fatal altered
  | lost _ same =>
    obtain rfl := same
    exact ⟨_, rfl⟩

theorem number (op : Operator) : Comes part start (Rules.number · op part) start :=
  here.bind _

theorem argument (callee : Name) : Comes part start (Rules.argument · callee part) start := by
  intro other err fatal altered
  change ∃ after, EStateM.bind (Run.attempt (other part)) _ start = .error err after
  unfold EStateM.bind Run.attempt
  rw [altered.here]
  exact ⟨start, Rules.settle_escapes callee.text (.inl fatal)⟩

theorem arguments (callee : Name) {earlier : List Expr} (rest : List Expr)
    {bindings : List Binding}
    (done : Rules.arguments Expr.evaluate callee earlier machine = .ok bindings start) :
    Comes part start (Rules.arguments · callee (earlier ++ part :: rest)) machine := by
  induction earlier generalizing machine bindings with
  | nil =>
    cases done
    exact (argument callee).bind _
  | cons operand others ih =>
    change EStateM.bind (Rules.argument Expr.evaluate callee operand) _ machine = _ at done
    unfold EStateM.bind at done
    cases settled : Rules.argument Expr.evaluate callee operand machine with
    | error err after => rw [settled] at done; cases done
    | ok binding middle =>
      rw [settled] at done
      change EStateM.bind (Rules.arguments Expr.evaluate callee others) _ middle = _ at done
      unfold EStateM.bind at done
      cases later : Rules.arguments Expr.evaluate callee others middle with
      | error err after => rw [later] at done; cases done
      | ok bound last =>
        rw [later] at done
        cases done
        exact Comes.after (fun fatal altered => altered.follows_argument fatal callee operand) settled
          ((ih later).bind _)

theorem invoke {procedure : Procedure} {bindings : List Binding} (span : Span)
    (equal : procedure.arity = bindings.length)
    (free : machine.env.depth < machine.env.config.maxCallDepth) :
    Comes procedure.body
      ⟨machine.env.push (.ofArguments procedure.parameters bindings),
        .call procedure.name (machine.env.depth + 1) :: machine.log⟩
      (Rules.invoke · procedure bindings span) machine := by
  intro other err fatal altered
  change ∃ after, ((if procedure.arity ≠ bindings.length then _
    else if machine.env.config.maxCallDepth ≤ machine.env.depth then _
    else _ : Run Value) machine) = .error err after
  rw [if_neg (not_not.mpr equal), if_neg (Nat.not_le.mpr free)]
  change ∃ after, Run.withFrame _ (other procedure.body) _ = .error err after
  unfold Run.withFrame bracket
  dsimp only
  rw [altered.here]
  exact ⟨_, rfl⟩

theorem starts (more : machine.env.room ≠ 0)
    (comes : Comes part start (Rules.value · expr) (machine.inside expr)) :
    expr.Starts machine part start := by
  classical
  -- Evaluation differs from at least one of two that fail with different errors.
  let failing (depth : Nat) (peer : Expr) : Run Value := fun m =>
    if (peer, m) = (part, start) then .error (.nestingTooDeep depth) m else peer.evaluate m
  have altered (depth : Nat) : Altered part start (.nestingTooDeep depth) (failing depth) :=
    ⟨if_pos rfl, fun peer m apart => if_neg apart⟩
  have fails (depth : Nat) : ∃ after,
      limited (failing depth) expr machine = .error (.nestingTooDeep depth) after := by
    obtain ⟨after, failed⟩ := comes (failing depth) rfl (altered depth)
    rw [limited_eq _ expr more]
    dsimp only at failed
    rw [failed]
    exact ⟨_, rfl⟩
  obtain ⟨_, zero⟩ := fails 0
  obtain ⟨_, one⟩ := fails 1
  by_cases same : limited (failing 0) expr machine = expr.evaluate machine
  · refine ⟨failing 1, (altered 1).elsewhere, ?_⟩
    rw [← same, zero, one]
    simp
  · exact ⟨failing 0, (altered 0).elsewhere, same⟩

end Comes

/-- An argument is evaluated after those before it, whatever becomes of its errors. -/
theorem starts_argument {callee : Name} (called : Operator.ofName? callee.text = none)
    (earlier : List Expr) (operand : Expr) (rest : List Expr) (span : Span)
    (more : machine.env.room ≠ 0) {bindings : List Binding} :
    let call := form callee (earlier ++ operand :: rest) span
    Rules.arguments Expr.evaluate callee earlier (machine.inside call) = .ok bindings start →
      call.Starts machine operand start := by
  intro call done
  refine Comes.starts more ?_
  simp only [call, Rules.value_call called]
  exact (Comes.arguments callee rest done).bind _

theorem starts_test (test yes no : Expr) (place span : Span) (more : machine.env.room ≠ 0) :
    let branching := form ⟨Operator.conditional.symbol, place⟩ [test, yes, no] span
    branching.Starts machine test (machine.inside branching) :=
  (Comes.here.bind _).starts more

theorem starts_definition (name : Name) (body : Expr) (place span : Span)
    (more : machine.env.room ≠ 0) :
    let definition := form ⟨Operator.define.symbol, place⟩ [.name name, body] span
    definition.Starts machine body (machine.inside definition) :=
  (Comes.here.bind _).starts more

theorem starts_operand {op : Operator} (numeric : op.isArithmetic = true) (operand : Expr)
    (rest : List Expr) (place span : Span) (more : machine.env.room ≠ 0) :
    let operation := form ⟨op.symbol, place⟩ (operand :: rest) span
    operation.Starts machine operand (machine.inside operation) := by
  refine Comes.starts more ?_
  cases op with
  | plus | times => exact ((Comes.number _).bind _).map _
  | minus | divide => cases rest <;> exact ((Comes.number _).bind _).map _
  | _ => cases numeric

theorem starts_body {callee : Name} (called : Operator.ofName? callee.text = none)
    (operands : List Expr) (span : Span) (more : machine.env.room ≠ 0) {bindings : List Binding}
    {ready : Machine} {procedure : Procedure}
    (bound : ready.env.globals.get? callee.text = some (.procedure procedure))
    (equal : procedure.arity = bindings.length)
    (free : ready.env.depth < ready.env.config.maxCallDepth) :
    let call := form callee operands span
    Rules.arguments Expr.evaluate callee operands (machine.inside call) = .ok bindings ready →
      call.Starts machine procedure.body
        ⟨ready.env.push (.ofArguments procedure.parameters bindings),
          .call procedure.name (ready.env.depth + 1) :: ready.log⟩ := by
  intro call done
  refine Comes.starts more ?_
  simp only [call, Rules.value_call called]
  have found : Rules.callable callee ready = .ok procedure ready := by
    unfold Rules.callable
    rw [Run.environment_bind, bound]
    rfl
  refine Comes.after ?_ done (Comes.after ?_ found (Comes.invoke span equal free))
  · exact fun fatal altered => altered.follows_arguments fatal callee operands
  · intro other err _ _
    exact Rules.follows_callable_of_lawful (Simulation.sound_itself (.of (· = err))).toLawful rfl rfl

end Expr

namespace Simulation

def raised (config : Config) (calls evaluations : Nat) : Simulation Unit :=
  .reconfigured config { config with maxCallDepth := calls, maxEvalDepth := evaluations }
    (fun _ => True) (.of fun err => err.isFatal = true)

theorem sound_raised {config : Config} {calls : Nat} (more : config.maxCallDepth ≤ calls)
    (evaluations : Nat) : (raised config calls evaluations).Sound id := by
  refine sound_reconfigured (fun _ => id) more (fun _ _ _ => rfl) fun callee err _ => ?_
  refine follows_recover (fun meet => ?_) callee rfl ?_
  · rw [meet.2.1, ← meet.1]
    rfl
  · intro m n meet
    exact meet

end Simulation

namespace Environment

/-- What an evaluation gives without hitting a limit it also gives under higher ones, and an error
about a limit that is hit anywhere inside it is the error that it fails with: in an evaluation that
it starts, at whatever remove, and so in any that its log shows. -/
theorem evaluate_raised (env : Environment) (expr : Expr) :
    (∀ {calls higher evaluations deeper : Nat}, calls ≤ higher → evaluations ≤ deeper →
      let outcome := (env.withLimits calls evaluations).evaluate expr
      let raised := (env.withLimits higher deeper).evaluate expr
      Settled outcome.result →
        raised.result = outcome.result ∧ raised.env.globals = outcome.env.globals) ∧
    (∀ {part : Expr} {start after : Machine} {err : EvalError}, part.Nested start expr { env } →
      part.evaluate start = .error err after → err.isFatal = true →
        (env.evaluate expr).result = .error err) ∧
    ∀ (part : Expr) (start : Machine) {after : Machine} {err : EvalError} {later : List Event},
      (env.evaluate expr).log =
          start.log.reverse ++ .evaluating part start.env.enter :: later →
        part.evaluate start = .error err after → err.isFatal = true →
          (env.evaluate expr).result = .error err := by
  refine ⟨?_, ?_, fun part start _ _ _ shown raised fatal => ?_⟩
  · intro calls higher evaluations deeper more ample
    dsimp only
    intro settled
    let config := (env.withLimits calls evaluations).config
    have sound : (Simulation.raised config higher deeper).Sound id :=
      Simulation.sound_raised more deeper
    have both := sound.evaluate_under trivial ample (fun _ _ _ => rfl) env expr
    rcases both with ⟨same, ends, -⟩ | ⟨err, failed, fatal⟩
    · have globals := congrArg Environment.globals ends
      exact ⟨same, globals⟩
    · change ((env.withLimits calls evaluations).evaluate expr).result = .error err at failed
      rw [failed] at settled
      exact absurd (settled.symm.trans fatal) Bool.false_ne_true
  · intro part start after err nested raised fatal
    obtain ⟨finish, failed⟩ := nested.fatal fatal ⟨after, raised⟩
    rw [evaluate_eq, failed]
    rfl
  · exact evaluate_shown env expr shown raised fatal

def careless : Environment :=
  ((withConfig ⟨.swallow, 2, 5⟩).define "f"
    (.procedure ⟨"f", [], .form ⟨"f", .unknown⟩ [] .unknown⟩)).define "g"
    (.procedure ⟨"g", ["x"], .boolean true .unknown⟩)

def careless.call (operand : Expr) : Expr :=
  .form ⟨"g", .unknown⟩ [operand] .unknown

theorem careless_raised :
    let dropped := careless.call (.name ⟨"h", .unknown⟩)
    let endless := Expr.form ⟨"f", .unknown⟩ [] .unknown
    Settled ((careless.withLimits 2 5).evaluate dropped).result ∧
      ((careless.withLimits 64 256).evaluate dropped).result = .ok (.boolean true) ∧
      (careless.evaluate (careless.call endless)).result = .error (.stackExhausted 2) ∧
      (careless.evaluate endless).result = .error (.stackExhausted 2) := by
  let endless := Expr.form ⟨"f", .unknown⟩ [] .unknown
  have settled : Settled ((careless.withLimits 2 5).evaluate
    (careless.call (.name ⟨"h", .unknown⟩))).result := trivial
  have higher := (evaluate_raised careless (careless.call (.name ⟨"h", .unknown⟩))).1
    (by decide : 2 ≤ 64) (by decide : 5 ≤ 256) settled
  have nested : Expr.Nested endless _ (careless.call endless) { env := careless } :=
    .inside (Expr.starts_argument rfl [] _ [] .unknown (by decide) rfl) .whole
  have shown := (evaluate_raised careless endless).2.2 endless
    ⟨careless.enter.push [], [.call "f" 1, .evaluating endless careless.enter]⟩ rfl rfl rfl
  exact ⟨settled, higher.1, (evaluate_raised careless _).2.1 nested rfl rfl, shown⟩

end Environment

end LineLisp
