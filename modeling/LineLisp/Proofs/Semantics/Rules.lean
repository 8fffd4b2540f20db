import LineLisp.Proofs.Semantics.Run

/-! What each rule of evaluation gives at home, given what it gives inside. -/
namespace LineLisp

namespace Rules
open Run

variable {home : Environment} {self : Expr → Run Value} {before middle after : Globals}

theorem number_gives {op : Operator} {operand : Expr} {value : Value} {x : Float}
    (given : Gives home (self operand) before (.ok value) after) (numeric : value.number? = some x) :
    Gives home (number self op operand) before (.ok x) after := by
  apply given.bind
  rw [numeric]
  exact .pure x

theorem number_mismatch {op : Operator} {operand : Expr} {value : Value}
    (given : Gives home (self operand) before (.ok value) after) (unlike : value.number? = none) :
    Gives home (number self op operand) before
      (.error (.typeMismatch op .number operand.span)) after := by
  apply given.bind
  rw [unlike]
  exact .throw _

theorem truth_gives {op : Operator} {operand : Expr} {value : Value} {b : Bool}
    (given : Gives home (self operand) before (.ok value) after) (truthful : value.truth? = some b) :
    Gives home (truth self op operand) before (.ok b) after := by
  apply given.bind
  rw [truthful]
  exact .pure b

theorem truth_mismatch {op : Operator} {operand : Expr} {value : Value}
    (given : Gives home (self operand) before (.ok value) after) (unlike : value.truth? = none) :
    Gives home (truth self op operand) before
      (.error (.typeMismatch op .truth operand.span)) after := by
  apply given.bind
  rw [unlike]
  exact .throw _

def Combines (op : Operator) (combine : Float → Float → Float)
    (checked : Expr → Float → Float → Except EvalError Float) : Prop :=
  ∀ operand total x, checked operand total x =
    if op.refuses x then .error (.divideByZero operand.span) else .ok (combine total x)

section

variable {op : Operator} {combine : Float → Float → Float}
  {checked : Expr → Float → Float → Except EvalError Float} {operand : Expr} {total x : Float}

theorem Combines.goes (combines : Combines op combine checked) (usable : op.refuses x = false)
    (next : Float → Run Float) :
    Run.ofExcept (checked operand total x) >>= next = next (combine total x) := by
  rw [combines, usable]
  rfl

theorem Combines.stops (combines : Combines op combine checked) (refused : op.refuses x = true)
    (next : Float → Run Float) :
    Run.ofExcept (checked operand total x) >>= next = throw (.divideByZero operand.span) := by
  rw [combines, refused]
  rfl

theorem accumulate_next (combines : Combines op combine checked) {rest : List Expr}
    {result : Except EvalError Float}
    (counted : Gives home (number self op operand) before (.ok x) middle)
    (usable : op.refuses x = false)
    (folded : Gives home (accumulate self op checked (combine total x) rest) middle result after) :
    Gives home (accumulate self op checked total (operand :: rest)) before result after := by
  apply counted.bind
  rw [combines.goes usable]
  exact folded

theorem accumulate_zero (combines : Combines op combine checked) (rest : List Expr)
    (counted : Gives home (number self op operand) before (.ok x) after)
    (refused : op.refuses x = true) :
    Gives home (accumulate self op checked total (operand :: rest)) before
      (.error (.divideByZero operand.span)) after := by
  apply counted.bind
  rw [combines.stops refused]
  exact .throw _

end

theorem combines_plus : Combines .plus (· + ·) fun _ a b => .ok (a + b) :=
  fun _ _ _ => rfl

theorem combines_times : Combines .times (· * ·) fun _ a b => .ok (a * b) :=
  fun _ _ _ => rfl

theorem combines_minus : Combines .minus (· - ·) fun _ a b => .ok (a - b) :=
  fun _ _ _ => rfl

theorem combines_divide : Combines .divide (· / ·) quotient :=
  fun _ _ _ => rfl

theorem anyTruth_nil {op : Operator} {neutral : Bool} :
    Gives home (anyTruth self op (!neutral) []) before ((Except.ok neutral).map (· != neutral)) before := by
  have same : (neutral != neutral) = false := by cases neutral <;> rfl
  change Gives home (pure false) before (.ok (neutral != neutral)) before
  rw [same]
  exact .pure false

theorem anyTruth_next {op : Operator} {neutral : Bool} {operand : Expr} {rest : List Expr}
    {result : Except EvalError Bool}
    (judged : Gives home (truth self op operand) before (.ok neutral) middle)
    (decided : Gives home (anyTruth self op (!neutral) rest) middle result after) :
    Gives home (anyTruth self op (!neutral) (operand :: rest)) before result after := by
  apply judged.bind
  have goes : neutral ≠ !neutral := by cases neutral <;> decide
  rw [if_neg goes]
  exact decided

theorem anyTruth_stop {op : Operator} {neutral : Bool} {operand : Expr} (rest : List Expr)
    (judged : Gives home (truth self op operand) before (.ok !neutral) after) :
    Gives home (anyTruth self op (!neutral) (operand :: rest)) before
      ((Except.ok !neutral).map (· != neutral)) after := by
  have differs : ((!neutral) != neutral) = true := by cases neutral <;> rfl
  change Gives home _ before (.ok ((!neutral) != neutral)) after
  rw [differs]
  apply judged.bind
  rw [if_pos rfl]
  exact .pure true

theorem conditional_taken {test yes no : Expr} {span : Span} {value : Value}
    {result : Except EvalError Value}
    (tested : Gives home (self test) before (.ok value) middle) (holds : value.truth? = some true)
    (branch : Gives home (self yes) middle result after) :
    Gives home (operate self .conditional [test, yes, no] span) before result after := by
  apply tested.bind
  rw [holds]
  exact branch

theorem conditional_skipped {test yes no : Expr} {span : Span} {value : Value}
    {result : Except EvalError Value}
    (tested : Gives home (self test) before (.ok value) middle) (fails : value.truth? ≠ some true)
    (branch : Gives home (self no) middle result after) :
    Gives home (operate self .conditional [test, yes, no] span) before result after := by
  apply tested.bind
  have skips : ¬ value.truth?.getD false = true := by
    cases truth : value.truth? with
    | none => decide
    | some b => simpa [truth] using fails
  rw [if_neg skips]
  exact branch

theorem defineValue_gives {name : Name} {body : Expr} {value : Value}
    (given : Gives home (self body) before (.ok value) after) :
    Gives home (defineValue self name body) before (.ok .define)
      (after.insert name.text (.ofValue value)) := by
  apply given.bind
  exact (Gives.emit _).bind ((Gives.define _ _).bind (.pure _))

theorem parameterNames_names (names : List Name) :
    parameterNames (names.map .name) = .ok (names.map (·.text)) := by
  induction names with
  | nil => rfl
  | cons name rest ih => simp [parameterNames, Expr.asName?, ih, Except.map]

theorem parameterNames_unnamed (names : List Name) {parameter : Expr} (others : List Expr)
    (unnamed : parameter.asName? = none) :
    parameterNames (names.map .name ++ parameter :: others) = .error parameter := by
  induction names with
  | nil => simp [parameterNames, unnamed]
  | cons name rest ih => simp [parameterNames, Expr.asName?, ih, Except.map]

/-- Parameters are names, or there is a first one that is none. -/
theorem parameters_cases (parameters : List Expr) :
    (∃ names : List Name, parameters = names.map .name) ∨
      ∃ (names : List Name) (parameter : Expr) (others : List Expr),
        parameters = names.map .name ++ parameter :: others ∧ parameter.asName? = none := by
  induction parameters with
  | nil => exact .inl ⟨[], rfl⟩
  | cons parameter rest ih =>
    cases parameter with
    | name ident =>
      rcases ih with ⟨names, rfl⟩ | ⟨names, parameter, others, rfl, unnamed⟩
      · exact .inl ⟨ident :: names, rfl⟩
      · exact .inr ⟨ident :: names, parameter, others, rfl, unnamed⟩
    | number x span => exact .inr ⟨[], .number x span, rest, rfl, rfl⟩
    | boolean b span => exact .inr ⟨[], .boolean b span, rest, rfl, rfl⟩
    | form head operands span => exact .inr ⟨[], .form head operands span, rest, rfl, rfl⟩

theorem names_of_parameterNames {parameters : List Expr} {names : List String}
    (named : parameterNames parameters = .ok names) :
    ∃ idents : List Name, parameters = idents.map .name ∧ names = idents.map (·.text) := by
  rcases parameters_cases parameters with ⟨idents, rfl⟩ | ⟨idents, parameter, others, rfl, unnamed⟩
  · rw [parameterNames_names] at named
    exact ⟨idents, rfl, (Except.ok.inj named).symm⟩
  · rw [parameterNames_unnamed idents others unnamed] at named
    cases named

theorem defineProcedure_gives {head : Name} (free : Operator.ofName? head.text = none)
    (names : List Name) (body : Expr) :
    Gives home (defineProcedure head (names.map .name) body) before (.ok .define)
      (before.insert head.text (.procedure ⟨head.text, names.map (·.text), body⟩)) := by
  unfold defineProcedure
  rw [free, parameterNames_names]
  exact (Gives.emit _).bind ((Gives.define _ _).bind (.pure _))

theorem defineProcedure_parameter {head : Name} (free : Operator.ofName? head.text = none)
    (names : List Name) {parameter : Expr} (others : List Expr) (unnamed : parameter.asName? = none)
    (body : Expr) :
    Gives home (defineProcedure head (names.map .name ++ parameter :: others) body) before
      (.error (.malformedDefine .parameter parameter.span)) before := by
  unfold defineProcedure
  rw [free, parameterNames_unnamed names others unnamed]
  exact .throw _

theorem defineProcedure_builtin {head : Name} {op : Operator}
    (spelled : Operator.ofName? head.text = some op) (parameters : List Expr) (body : Expr) :
    Gives home (defineProcedure head parameters body) before
      (.error (.malformedDefine .builtin head.span)) before := by
  unfold defineProcedure
  rw [spelled]
  exact .throw _

theorem operate_compares {op : Operator} {holds : Float → Float → Bool}
    (compares : op.compares? = some holds) (operands : List Expr) (span : Span) :
    operate self op operands span = Value.boolean <$> comparison self op holds operands span := by
  cases op <;> cases compares <;> rfl

theorem comparison_gives {op : Operator} {holds : Float → Float → Bool} {left right : Expr}
    {span : Span} {a b : Float} (compares : op.compares? = some holds)
    (first : Gives home (number self op left) before (.ok a) middle)
    (second : Gives home (number self op right) middle (.ok b) after) :
    Gives home (operate self op [left, right] span) before (.ok (.boolean (holds a b))) after := by
  have compared : Gives home (comparison self op holds [left, right] span) before
      (.ok (holds a b)) after := first.bind (second.bind (.pure _))
  rw [operate_compares compares]
  exact compared.map Value.boolean

theorem comparison_left {op : Operator} {holds : Float → Float → Bool} {left right : Expr}
    {span : Span} {err : EvalError} (compares : op.compares? = some holds)
    (failed : Gives home (number self op left) before (.error err) after) :
    Gives home (operate self op [left, right] span) before (.error err) after := by
  have compared : Gives home (comparison self op holds [left, right] span) before
      (.error err) after := failed.bind_error _
  rw [operate_compares compares]
  exact compared.map Value.boolean

theorem comparison_right {op : Operator} {holds : Float → Float → Bool} {left right : Expr}
    {span : Span} {a : Float} {err : EvalError} (compares : op.compares? = some holds)
    (first : Gives home (number self op left) before (.ok a) middle)
    (failed : Gives home (number self op right) middle (.error err) after) :
    Gives home (operate self op [left, right] span) before (.error err) after := by
  have compared : Gives home (comparison self op holds [left, right] span) before
      (.error err) after := first.bind (failed.bind_error _)
  rw [operate_compares compares]
  exact compared.map Value.boolean

theorem comparison_arity {op : Operator} {holds : Float → Float → Bool} {operands : List Expr}
    (compares : op.compares? = some holds) (span : Span) (count : operands.length ≠ 2) :
    Gives home (operate self op operands span) before
      (.error (.arityMismatch op.symbol 2 operands.length span)) before := by
  have refused : Gives home (comparison self op holds operands span) before
      (.error (.arityMismatch op.symbol 2 operands.length span)) before := by
    unfold comparison
    split
    · simp at count
    · exact .throw _
  rw [operate_compares compares]
  exact refused.map Value.boolean

theorem argument_value {callee : Name} {operand : Expr} {value : Value}
    (given : Gives home (self operand) before (.ok value) after) :
    Gives home (argument self callee operand) before (.ok (.ofValue value)) after :=
  given.attempt.bind (.pure _)

theorem argument_fatal {callee : Name} {operand : Expr} {err : EvalError}
    (fatal : err.isFatal = true) (failed : Gives home (self operand) before (.error err) after) :
    Gives home (argument self callee operand) before (.error err) after := by
  apply failed.attempt.bind
  simp only [fatal, if_true]
  exact .throw err

theorem argument_fails {callee : Name} {operand : Expr} {err : EvalError}
    (regular : err.isFatal = false) (failed : Gives home (self operand) before (.error err) after) :
    Gives home (argument self callee operand) before
      (match home.config.argumentErrors with
        | .propagate => .error err
        | .swallow => .ok .void) after := by
  apply failed.attempt.bind
  simp only [regular, Bool.false_eq_true, if_false]
  apply Gives.environment
  dsimp only
  cases home.config.argumentErrors with
  | propagate => exact .throw err
  | swallow => exact (Gives.emit _).bind (.pure _)

theorem callable_gives {callee : Name} {procedure : Procedure}
    (found : before.get? callee.text = some (.procedure procedure)) :
    Gives home (callable callee) before (.ok procedure) before := by
  apply Gives.environment
  dsimp only
  rw [found]
  exact .pure procedure

theorem callable_unbound {callee : Name} (missing : before.get? callee.text = none) :
    Gives home (callable callee) before (.error (.undefined callee.text callee.span)) before := by
  apply Gives.environment
  dsimp only
  rw [missing]
  exact .throw _

theorem callable_other {callee : Name} {binding : Binding}
    (found : before.get? callee.text = some binding)
    (unlike : ∀ procedure, binding ≠ .procedure procedure) :
    Gives home (callable callee) before (.error (.notAProcedure callee.text callee.span)) before := by
  apply Gives.environment
  dsimp only
  rw [found]
  cases binding with
  | procedure procedure => exact absurd rfl (unlike procedure)
  | _ => exact .throw _

theorem arguments_next {callee : Name} {operand : Expr} {rest : List Expr} {binding : Binding}
    {result : Except EvalError (List Binding)}
    (passed : Gives home (argument self callee operand) before (.ok binding) middle)
    (others : Gives home (arguments self callee rest) middle result after) :
    Gives home (arguments self callee (operand :: rest)) before (result.map (binding :: ·)) after := by
  apply passed.bind
  cases result with
  | ok bindings => exact others.bind (.pure _)
  | error err => exact others.bind_error _

theorem reference_bound {policy : ArgumentErrors} {frame : Option Frame} {name : Name}
    {binding : Binding} (placed : Placed policy frame home)
    (found : meaning? frame before name.text = some binding) :
    Gives home (reference name) before (.ok (binding.resolve name.text)) before := by
  apply Gives.environment
  have looked : ({ home with globals := before } : Environment).lookup name.text = some binding := by
    rw [Environment.lookup_eq, ← found, ← placed.frame]
    rfl
  rw [looked]
  exact .pure _

theorem reference_unbound {policy : ArgumentErrors} {frame : Option Frame} {name : Name}
    (placed : Placed policy frame home) (missing : meaning? frame before name.text = none) :
    Gives home (reference name) before (.error (.undefined name.text name.span)) before := by
  apply Gives.environment
  have looked : ({ home with globals := before } : Environment).lookup name.text = none := by
    rw [Environment.lookup_eq, ← missing, ← placed.frame]
    rfl
  rw [looked]
  exact .throw _

theorem value_operator {head : Name} {op : Operator} {operands : List Expr} {span : Span}
    (spelled : Operator.ofName? head.text = some op) :
    value self (.form head operands span) = operate self op operands span := by
  simp only [value, spelled]

theorem value_call {head : Name} {operands : List Expr} {span : Span}
    (named : Operator.ofName? head.text = none) :
    value self (.form head operands span) = apply self head operands span := by
  simp only [value, named]

theorem opposite_gives {operand : Expr} {span : Span} {result : Except EvalError Float}
    (counted : Gives home (number self .minus operand) before result after) :
    Gives home (operate self .minus [operand] span) before (result.map fun x => .number (-x)) after := by
  have negated : Gives home (difference self [operand]) before (result.map (-·)) after := by
    cases result with
    | ok x => exact counted.bind (.pure (-x))
    | error err => exact counted.bind_error _
  have mapped := negated.map Value.number
  cases result with
  | ok x => exact mapped
  | error err => exact mapped

theorem seed_fails {op : Operator} {first second : Expr} {rest : List Expr} {span : Span}
    {err : EvalError} (seeded : op.seeded = true)
    (failed : Gives home (number self op first) before (.error err) after) :
    Gives home (operate self op (first :: second :: rest) span) before (.error err) after := by
  cases op with
  | minus | divide => exact Gives.map Value.number (failed.bind_error _)
  | _ => cases seeded

theorem seedless_gives {op : Operator} {span : Span} (seeded : op.seeded = true) :
    Gives home (operate self op [] span) before (.ok (.number 0)) before := by
  cases op with
  | minus | divide => exact Gives.map Value.number (.pure 0)
  | _ => cases seeded

theorem conjunction_gives {operands : List Expr} {span : Span} {result : Except EvalError Bool}
    (decided : Gives home (anyTruth self .and (!true) operands) before (result.map (· != true)) after) :
    Gives home (operate self .and operands span) before (result.map .boolean) after := by
  have mapped := decided.map (Value.boolean !·)
  cases result with
  | ok b => cases b <;> exact mapped
  | error err => exact mapped

theorem disjunction_gives {operands : List Expr} {span : Span} {result : Except EvalError Bool}
    (decided : Gives home (anyTruth self .or (!false) operands) before (result.map (· != false)) after) :
    Gives home (operate self .or operands span) before (result.map .boolean) after := by
  have mapped := decided.map Value.boolean
  cases result with
  | ok b => cases b <;> exact mapped
  | error err => exact mapped

theorem negation_gives {operand : Expr} {span : Span} {result : Except EvalError Bool}
    (judged : Gives home (truth self .not operand) before result after) :
    Gives home (operate self .not [operand] span) before (result.map fun b => .boolean !b) after := by
  have negated : Gives home (negation self [operand] span) before (result.map (!·)) after := by
    cases result with
    | ok b => exact judged.bind (.pure !b)
    | error err => exact judged.bind_error _
  have mapped := negated.map Value.boolean
  cases result with
  | ok b => exact mapped
  | error err => exact mapped

theorem negation_arity {operands : List Expr} (span : Span) (count : operands.length ≠ 1) :
    Gives home (operate self .not operands span) before
      (.error (.arityMismatch Operator.not.symbol 1 operands.length span)) before := by
  have refused : Gives home (negation self operands span) before
      (.error (.arityMismatch Operator.not.symbol 1 operands.length span)) before := by
    unfold negation
    split
    · simp at count
    · exact .throw _
  exact refused.map Value.boolean

theorem conditional_shape {operands : List Expr} (span : Span) (count : operands.length ≠ 3) :
    Gives home (conditional self operands span) before
      (.error (.malformedConditional operands.length span)) before := by
  unfold conditional
  split
  · simp at count
  · exact .throw _

theorem define_shape {operands : List Expr} (span : Span) (count : operands.length ≠ 2) :
    Gives home (define self operands span) before (.error (.malformedDefine .shape span)) before := by
  unfold define
  split
  · simp at count
  · exact .throw _

theorem invoke_arity {procedure : Procedure} {bindings : List Binding} (span : Span)
    (unequal : procedure.arity ≠ bindings.length) :
    Gives home (invoke self procedure bindings span) before
      (.error (.arityMismatch procedure.name procedure.arity bindings.length span)) before := by
  apply Gives.environment
  rw [if_pos unequal]
  exact .throw _

theorem invoke_exhausted {procedure : Procedure} {bindings : List Binding} (span : Span)
    (equal : procedure.arity = bindings.length) (full : home.config.maxCallDepth ≤ home.depth) :
    Gives home (invoke self procedure bindings span) before
      (.error (.stackExhausted home.depth)) before := by
  apply Gives.environment
  rw [if_neg (absurd equal)]
  change Gives home (if home.config.maxCallDepth ≤ home.depth then _ else _) before _ before
  rw [if_pos full]
  exact .throw _

theorem invoke_gives {procedure : Procedure} {bindings : List Binding} (span : Span)
    {result : Except EvalError Value} (equal : procedure.arity = bindings.length)
    (free : home.depth < home.config.maxCallDepth)
    (ran : Gives (home.push (.ofArguments procedure.parameters bindings)) (self procedure.body)
      before result after) :
    Gives home (invoke self procedure bindings span) before result after := by
  apply Gives.environment
  rw [if_neg (absurd equal)]
  change Gives home (if home.config.maxCallDepth ≤ home.depth then _ else _) before result after
  rw [if_neg (Nat.not_le.mpr free)]
  exact (Gives.emit _).bind ran.withFrame

end Rules

end LineLisp
