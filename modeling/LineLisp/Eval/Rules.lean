import LineLisp.Eval.Run

/-! One rule for each kind of expression.
The rules get the evaluation of sub-expressions and of procedure bodies as an
argument, `self`. Operands are evaluated from left to right, and only as far as
the result needs them. -/
namespace LineLisp.Rules

variable (self : Expr → Run Value)

def number (op : Operator) (operand : Expr) : Run Float := do
  match (← self operand).number? with
  | some value => pure value
  | none => throw (.typeMismatch op .number operand.span)

def truth (op : Operator) (operand : Expr) : Run Bool := do
  match (← self operand).truth? with
  | some value => pure value
  | none => throw (.typeMismatch op .truth operand.span)

def accumulate (op : Operator) (combine : Expr → Float → Float → Except EvalError Float) :
    Float → List Expr → Run Float
  | total, [] => pure total
  | total, operand :: rest => do
    let value ← number self op operand
    let total ← Run.ofExcept (combine operand total value)
    accumulate op combine total rest

def quotient (divisor : Expr) (a b : Float) : Except EvalError Float :=
  if b == 0 then .error (.divideByZero divisor.span) else .ok (a / b)

def sum (operands : List Expr) : Run Float :=
  accumulate self .plus (fun _ a b => .ok (a + b)) 0 operands

def product (operands : List Expr) : Run Float :=
  accumulate self .times (fun _ a b => .ok (a * b)) 1 operands

def difference : List Expr → Run Float
  | [] => pure 0
  | [operand] => do return -(← number self .minus operand)
  | first :: rest => do
    accumulate self .minus (fun _ a b => .ok (a - b)) (← number self .minus first) rest

def ratio : List Expr → Run Float
  | [] => pure 0
  | [operand] => accumulate self .divide quotient 1 [operand]
  | first :: rest => do
    accumulate self .divide quotient (← number self .divide first) rest

def anyTruth (op : Operator) (wanted : Bool) : List Expr → Run Bool
  | [] => pure false
  | operand :: rest => do
    if (← truth self op operand) = wanted then pure true else anyTruth op wanted rest

def negation (operands : List Expr) (span : Span) : Run Bool :=
  match operands with
  | [operand] => do return !(← truth self .not operand)
  | _ => throw (.arityMismatch Operator.not.symbol 1 operands.length span)

def comparison (op : Operator) (holds : Float → Float → Bool) (operands : List Expr) (span : Span) :
    Run Bool :=
  match operands with
  | [left, right] => do
    let a ← number self op left
    let b ← number self op right
    return holds a b
  | _ => throw (.arityMismatch op.symbol 2 operands.length span)

/-- What has no truth value counts as false here. -/
def conditional (operands : List Expr) (span : Span) : Run Value :=
  match operands with
  | [test, yes, no] => do
    if (← self test).truth?.getD false then self yes else self no
  | _ => throw (.malformedConditional operands.length span)

def parameterNames : List Expr → Except Expr (List String)
  | [] => .ok []
  | parameter :: rest =>
    match parameter.asName? with
    | some name => (parameterNames rest).map (name.text :: ·)
    | none => .error parameter

def defineValue (name : Name) (body : Expr) : Run Value := do
  let value ← self body
  Run.emit (.defineValue name.text value)
  Run.define name.text (.ofValue value)
  return .define

def defineProcedure (head : Name) (parameters : List Expr) (body : Expr) : Run Value :=
  if (Operator.ofName? head.text).isSome then throw (.malformedDefine .builtin head.span)
  else
    match parameterNames parameters with
    | .error parameter => throw (.malformedDefine .parameter parameter.span)
    | .ok names => do
      Run.emit (.defineProcedure head.text names)
      Run.define head.text (.procedure ⟨head.text, names, body⟩)
      return .define

def define (operands : List Expr) (span : Span) : Run Value :=
  match operands with
  | [target, body] =>
    match target with
    | .name name => defineValue self name body
    | .form head parameters _ => defineProcedure head parameters body
    | _ => throw (.malformedDefine .target target.span)
  | _ => throw (.malformedDefine .shape span)

def operate (op : Operator) (operands : List Expr) (span : Span) : Run Value :=
  match op with
  | .plus => Value.number <$> sum self operands
  | .minus => Value.number <$> difference self operands
  | .times => Value.number <$> product self operands
  | .divide => Value.number <$> ratio self operands
  | .and => (Value.boolean !·) <$> anyTruth self op false operands
  | .or => Value.boolean <$> anyTruth self op true operands
  | .not => Value.boolean <$> negation self operands span
  | .equal => Value.boolean <$> comparison self op (· == ·) operands span
  | .greater => Value.boolean <$> comparison self op (· > ·) operands span
  | .greaterEqual => Value.boolean <$> comparison self op (· ≥ ·) operands span
  | .less => Value.boolean <$> comparison self op (· < ·) operands span
  | .lessEqual => Value.boolean <$> comparison self op (· ≤ ·) operands span
  | .conditional => conditional self operands span
  | .define => define self operands span

def argument (callee : Name) (operand : Expr) : Run Binding := do
  match ← Run.attempt (self operand) with
  | .ok value => return .ofValue value
  | .error err =>
    if err.isFatal then throw err
    else
      match (← Run.environment).config.argumentErrors with
      | .propagate => throw err
      | .swallow =>
        Run.emit (.argumentDropped callee.text err)
        return .void

def arguments (callee : Name) : List Expr → Run (List Binding)
  | [] => pure []
  | operand :: rest => do
    let binding ← argument self callee operand
    return binding :: (← arguments callee rest)

/-- The procedure that `callee` names. Only globals can be called. -/
def callable (callee : Name) : Run Procedure := do
  match (← Run.environment).globals.get? callee.text with
  | some (.procedure procedure) => pure procedure
  | some _ => throw (.notAProcedure callee.text callee.span)
  | none => throw (.undefined callee.text callee.span)

def invoke (procedure : Procedure) (bindings : List Binding) (span : Span) : Run Value := do
  let env ← Run.environment
  if procedure.arity ≠ bindings.length then
    throw (.arityMismatch procedure.name procedure.arity bindings.length span)
  else if env.config.maxCallDepth ≤ env.depth then throw (.stackExhausted env.depth)
  else
    Run.emit (.call procedure.name (env.depth + 1))
    Run.withFrame (.ofArguments procedure.parameters bindings) (self procedure.body)

/-- A call. The arguments are evaluated before the callee is looked up. -/
def apply (callee : Name) (operands : List Expr) (span : Span) : Run Value := do
  let bindings ← arguments self callee operands
  let procedure ← callable callee
  invoke self procedure bindings span

def reference (name : Name) : Run Value := do
  match (← Run.environment).lookup name.text with
  | some binding => return binding.resolve name.text
  | none => throw (.undefined name.text name.span)

def value : Expr → Run Value
  | .number value _ => pure (.number value)
  | .boolean value _ => pure (.boolean value)
  | .name name => reference name
  | .form head operands span =>
    match Operator.ofName? head.text with
    | some op => operate self op operands span
    | none => apply self head operands span

def evaluation (expr : Expr) : Run Value := do
  Run.emit (.evaluating expr (← Run.environment))
  value self expr

end LineLisp.Rules
