import LineLisp.Proofs.Semantics.Rules

/-! Evaluation gives what an expression means if its limits are wide enough.
Every derivation needs a bounded number of evaluations and calls inside one
another. -/
namespace LineLisp

open Run

def Reaches {α : Type} (policy : ArgumentErrors) (frame : Option Frame)
    (body : (Expr → Run Value) → Run α) (before : Globals) (result : Except EvalError α)
    (after : Globals) : Prop :=
  ∃ bound, ∀ home room, Placed policy frame home → bound ≤ room →
    home.depth + bound ≤ home.config.maxCallDepth →
      Gives home (body (evaluateWithin room)) before result after

namespace Reaches

variable {α β γ : Type} {policy : ArgumentErrors} {frame : Option Frame}
  {before middle after finish : Globals} {result : Except EvalError α}
  {other : Except EvalError β} {whole : Except EvalError γ} {first : (Expr → Run Value) → Run α}
  {second : (Expr → Run Value) → Run β} {body : (Expr → Run Value) → Run γ}

theorem immediate
    (gives : ∀ home self, Placed policy frame home → Gives home (body self) before whole after) :
    Reaches policy frame body before whole after :=
  ⟨0, fun home room placed _ _ => gives home (evaluateWithin room) placed⟩

theorem imp (reached : Reaches policy frame first before result after)
    (gives : ∀ home self, Placed policy frame home → Gives home (first self) before result after →
      Gives home (body self) before whole finish) :
    Reaches policy frame body before whole finish := by
  obtain ⟨bound, given⟩ := reached
  refine ⟨bound, fun home room placed evaluations calls => ?_⟩
  exact gives home _ placed (given home room placed evaluations calls)

theorem imp₂ (reached : Reaches policy frame first before result middle)
    (later : Reaches policy frame second middle other after)
    (gives : ∀ home self, Gives home (first self) before result middle →
      Gives home (second self) middle other after → Gives home (body self) before whole after) :
    Reaches policy frame body before whole after := by
  obtain ⟨bound, given⟩ := reached
  obtain ⟨limit, ended⟩ := later
  refine ⟨max bound limit, fun home room placed evaluations calls => ?_⟩
  have head := given home room placed (by omega) (by omega)
  have tail := ended home room placed (by omega) (by omega)
  exact gives home _ head tail

theorem evaluation {expr : Expr} {result : Except EvalError Value}
    (reached : Reaches policy frame (Rules.value · expr) before result after) :
    Reaches policy frame (· expr) before result after := by
  obtain ⟨bound, given⟩ := reached
  refine ⟨bound + 1, fun home room placed evaluations calls => ?_⟩
  obtain ⟨left, rfl⟩ : ∃ left, room = left + 1 := ⟨room - 1, by omega⟩
  have entered : home.enter.depth + bound ≤ home.enter.config.maxCallDepth := by
    change home.depth + bound ≤ home.config.maxCallDepth
    omega
  have inside : Gives home.enter (Rules.value (evaluateWithin left) expr) before result after :=
    given home.enter left ⟨placed.policy, placed.frame⟩ (by omega) entered
  exact inside.evaluation

theorem invocation {procedure : Procedure} {bindings : List Binding} (span : Span)
    {result : Except EvalError Value} (equal : procedure.arity = bindings.length)
    (reached : Reaches policy (some (.ofArguments procedure.parameters bindings))
      (· procedure.body) before result after) :
    Reaches policy frame (Rules.invoke · procedure bindings span) before result after := by
  obtain ⟨bound, given⟩ := reached
  refine ⟨bound + 1, fun home room placed evaluations calls => ?_⟩
  have pushed : ∀ inner : Frame,
      (home.push inner).depth + bound ≤ (home.push inner).config.maxCallDepth := by
    intro inner
    change home.depth + 1 + bound ≤ home.config.maxCallDepth
    omega
  have inside := given (home.push _) room ⟨placed.policy, rfl⟩ (by omega) (pushed _)
  exact Rules.invoke_gives span equal (by omega) inside

theorem arguments_fail {head : Name} {operands : List Expr} {span : Span} {err : EvalError}
    (named : Operator.ofName? head.text = none)
    (failed : ∀ callee, Reaches policy frame (Rules.arguments · callee operands) before (.error err)
      after) :
    Reaches policy frame (· (.form head operands span)) before (.error err) after := by
  apply evaluation
  refine (failed head).imp fun home self _ given => ?_
  rw [Rules.value_call named]
  exact given.bind_error _

theorem application {head : Name} {operands : List Expr} {span : Span} {bindings : List Binding}
    {result : Except EvalError Value}
    (named : Operator.ofName? head.text = none)
    (passed : ∀ callee, Reaches policy frame (Rules.arguments · callee operands) before
      (.ok bindings) middle)
    (called : Reaches policy frame (fun self => Rules.callable head >>= fun procedure =>
      Rules.invoke self procedure bindings span) middle result after) :
    Reaches policy frame (· (.form head operands span)) before result after := by
  apply evaluation
  refine (passed head).imp₂ called fun home self given ends => ?_
  rw [Rules.value_call named]
  exact given.bind ends

end Reaches

section

variable {policy : ArgumentErrors}

-- The induction is on the derivation: the body of a procedure is no part of the expression.
mutual

theorem Evaluates.reaches {frame before expr result after} :
    Evaluates policy frame before expr result after →
      Reaches policy frame (· expr) before result after
  | .number => .evaluation (.immediate fun _ _ _ => .pure _)
  | .boolean => .evaluation (.immediate fun _ _ _ => .pure _)
  | .bound found => .evaluation (.immediate fun _ _ placed => Rules.reference_bound placed found)
  | .unbound missing => .evaluation (.immediate fun _ _ placed => Rules.reference_unbound placed missing)
  | .form spelled operated => by
    have operates := operated.reaches
    refine .evaluation (operates.imp fun home self _ given => ?_)
    rw [Rules.value_operator spelled]
    exact given
  | .argumentsFail named failed => .arguments_fail named failed.reaches
  | .calleeUnbound named passed missing =>
    .application named passed.reaches (.immediate fun _ _ _ => (Rules.callable_unbound missing).bind_error _)
  | .calleeOther named passed found unlike =>
    .application named passed.reaches
      (.immediate fun _ _ _ => (Rules.callable_other found unlike).bind_error _)
  | .arity named passed found unequal =>
    .application named passed.reaches
      (.immediate fun _ _ _ => (Rules.callable_gives found).bind (Rules.invoke_arity _ unequal))
  | .call named passed found equal body =>
    .application named passed.reaches
      ((body.reaches.invocation _ equal).imp fun _ _ _ given =>
        (Rules.callable_gives found).bind given)

theorem Operates.reaches {frame op before operands span result after} :
    Operates policy frame op before operands span result after →
      Reaches policy frame (Rules.operate · op operands span) before result after
  | .sum folded => (folded.reaches Rules.combines_plus).imp fun _ _ _ given => given.map _
  | .product folded => (folded.reaches Rules.combines_times).imp fun _ _ _ given => given.map _
  | .opposite counted => counted.reaches.imp fun _ _ _ given => Rules.opposite_gives given
  | .inverse folded => (folded.reaches Rules.combines_divide).imp fun _ _ _ given => given.map _
  | .difference counted folded =>
    counted.reaches.imp₂ (folded.reaches Rules.combines_minus) fun _ _ given ends =>
      (given.bind ends).map _
  | .quotient counted folded =>
    counted.reaches.imp₂ (folded.reaches Rules.combines_divide) fun _ _ given ends =>
      (given.bind ends).map _
  | .seedFails seeded failed => by
    have fails := failed.reaches
    refine fails.imp fun home self _ given => ?_
    exact Rules.seed_fails seeded given
  | .seedless seeded => .immediate fun _ _ _ => Rules.seedless_gives seeded
  | .conjunction decided => decided.reaches.imp fun _ _ _ given => Rules.conjunction_gives given
  | .disjunction decided => decided.reaches.imp fun _ _ _ given => Rules.disjunction_gives given
  | .negation judged => judged.reaches.imp fun _ _ _ given => Rules.negation_gives given
  | .negationArity count => .immediate fun _ _ _ => Rules.negation_arity _ count
  | .comparison compares first second =>
    first.reaches.imp₂ second.reaches fun _ _ left right =>
      Rules.comparison_gives compares left right
  | .leftFails compares failed =>
    failed.reaches.imp fun _ _ _ left => Rules.comparison_left compares left
  | .rightFails compares first failed =>
    first.reaches.imp₂ failed.reaches fun _ _ left right =>
      Rules.comparison_right compares left right
  | .comparisonArity compares count => .immediate fun _ _ _ => Rules.comparison_arity compares _ count
  | .taken tested holds branch =>
    tested.reaches.imp₂ branch.reaches fun _ _ given ends => Rules.conditional_taken given holds ends
  | .skipped tested fails branch =>
    tested.reaches.imp₂ branch.reaches fun _ _ given ends => Rules.conditional_skipped given fails ends
  | .testFails failed => failed.reaches.imp fun _ _ _ given => given.bind_error _
  | .conditionalShape count => .immediate fun _ _ _ => Rules.conditional_shape _ count
  | .defineValue evaluated => evaluated.reaches.imp fun _ _ _ given => Rules.defineValue_gives given
  | .defineFails failed => failed.reaches.imp fun _ _ _ given => given.bind_error _
  | .defineProcedure free => .immediate fun _ _ _ => Rules.defineProcedure_gives free _ _
  | .defineParameter free unnamed =>
    .immediate fun _ _ _ => Rules.defineProcedure_parameter free _ _ unnamed _
  | .defineBuiltin spelled => .immediate fun _ _ _ => Rules.defineProcedure_builtin spelled _ _
  | .defineNumber => .immediate fun _ _ _ => .throw _
  | .defineBoolean => .immediate fun _ _ _ => .throw _
  | .defineShape count => .immediate fun _ _ _ => Rules.define_shape _ count

theorem Counts.reaches {frame op before operand result after} :
    Counts policy frame op before operand result after →
      Reaches policy frame (Rules.number · op operand) before result after
  | .number evaluated numeric =>
    evaluated.reaches.imp fun _ _ _ given => Rules.number_gives given numeric
  | .mismatch evaluated unlike =>
    evaluated.reaches.imp fun _ _ _ given => Rules.number_mismatch given unlike
  | .fails failed => failed.reaches.imp fun _ _ _ given => given.bind_error _

theorem Judges.reaches {frame op before operand result after} :
    Judges policy frame op before operand result after →
      Reaches policy frame (Rules.truth · op operand) before result after
  | .truth evaluated truthful =>
    evaluated.reaches.imp fun _ _ _ given => Rules.truth_gives given truthful
  | .mismatch evaluated unlike =>
    evaluated.reaches.imp fun _ _ _ given => Rules.truth_mismatch given unlike
  | .fails failed => failed.reaches.imp fun _ _ _ given => given.bind_error _

theorem Folds.reaches {frame op combine before total operands result after} :
    Folds policy frame op combine before total operands result after →
      ∀ {checked}, Rules.Combines op combine checked →
        Reaches policy frame (Rules.accumulate · op checked total operands) before result after
  | .nil, _, _ => .immediate fun _ _ _ => .pure _
  | .next counted usable folded, _, combines =>
    counted.reaches.imp₂ (folded.reaches combines) fun _ _ given ends =>
      Rules.accumulate_next combines given usable ends
  | .zero counted refused, _, combines =>
    counted.reaches.imp fun _ _ _ given => Rules.accumulate_zero combines _ given refused
  | .fails failed, _, _ => failed.reaches.imp fun _ _ _ given => given.bind_error _

theorem Decides.reaches {frame op neutral before operands result after} :
    Decides policy frame op neutral before operands result after →
      Reaches policy frame (Rules.anyTruth · op (!neutral) operands) before
        (result.map (· != neutral)) after
  | .nil => .immediate fun _ _ _ => Rules.anyTruth_nil
  | .next judged decided =>
    judged.reaches.imp₂ decided.reaches fun _ _ given ends => Rules.anyTruth_next given ends
  | .stop judged => judged.reaches.imp fun _ _ _ given => Rules.anyTruth_stop _ given
  | .fails failed => failed.reaches.imp fun _ _ _ given => given.bind_error _

theorem Passes.reaches {frame before operand result after} :
    Passes policy frame before operand result after →
      ∀ callee, Reaches policy frame (Rules.argument · callee operand) before result after
  | .value evaluated, _ => evaluated.reaches.imp fun _ _ _ given => Rules.argument_value given
  | .dropped swallows failed, _ => failed.reaches.imp fun _ _ placed given => by
    simpa only [placed.policy, swallows] using Rules.argument_fails failed.settled given
  | .fails propagates failed, _ => failed.reaches.imp fun _ _ placed given => by
    simpa only [placed.policy, propagates] using Rules.argument_fails failed.settled given

theorem PassesAll.reaches {frame before operands result after} :
    PassesAll policy frame before operands result after →
      ∀ callee, Reaches policy frame (Rules.arguments · callee operands) before result after
  | .nil, _ => .immediate fun _ _ _ => .pure _
  | .next passed others, callee =>
    (passed.reaches callee).imp₂ (others.reaches callee) fun _ _ given ends =>
      Rules.arguments_next given ends
  | .fails failed, callee => (failed.reaches callee).imp fun _ _ _ given => given.bind_error _

end

end

end LineLisp
