import LineLisp.Environment
import LineLisp.Eval.Error

/-! What expressions mean, apart from limits.
The judgments relate an expression, the parameters in scope and the globals to a
value or an error and the globals afterwards. They know no call stack, no
counters and no log; an expression whose evaluation does not end has no
derivation. `Counts` and `Judges` take an operand as a number and as a truth
value, `Folds` and `Decides` go through operands from left to right, and `Passes`
makes an argument of one. -/
namespace LineLisp

def meaning? (frame : Option Frame) (globals : Globals) (name : String) : Option Binding :=
  (frame.bind (·.lookup name)).or (globals.get? name)

namespace Operator

def refuses : Operator → Float → Bool
  | divide, x => x == 0
  | _, _ => false

def compares? : Operator → Option (Float → Float → Bool)
  | equal => some (· == ·)
  | greater => some (· > ·)
  | greaterEqual => some (· ≥ ·)
  | less => some (· < ·)
  | lessEqual => some (· ≤ ·)
  | _ => none

def seeded : Operator → Bool
  | minus | divide => true
  | _ => false

end Operator

mutual

inductive Evaluates (policy : ArgumentErrors) :
    Option Frame → Globals → Expr → Except EvalError Value → Globals → Prop
  | number {frame globals x span} :
    Evaluates policy frame globals (.number x span) (.ok (.number x)) globals
  | boolean {frame globals b span} :
    Evaluates policy frame globals (.boolean b span) (.ok (.boolean b)) globals
  | bound {frame globals name binding} (found : meaning? frame globals name.text = some binding) :
    Evaluates policy frame globals (.name name) (.ok (binding.resolve name.text)) globals
  | unbound {frame globals name} (missing : meaning? frame globals name.text = none) :
    Evaluates policy frame globals (.name name) (.error (.undefined name.text name.span)) globals
  | form {frame before head operands span op result after}
    (spelled : Operator.ofName? head.text = some op)
    (operated : Operates policy frame op before operands span result after) :
    Evaluates policy frame before (.form head operands span) result after
  | argumentsFail {frame before head operands span err after}
    (named : Operator.ofName? head.text = none)
    (failed : PassesAll policy frame before operands (.error err) after) :
    Evaluates policy frame before (.form head operands span) (.error err) after
  | calleeUnbound {frame before head operands span bindings after}
    (named : Operator.ofName? head.text = none)
    (passed : PassesAll policy frame before operands (.ok bindings) after)
    (missing : after.get? head.text = none) :
    Evaluates policy frame before (.form head operands span)
      (.error (.undefined head.text head.span)) after
  | calleeOther {frame before head operands span bindings binding after}
    (named : Operator.ofName? head.text = none)
    (passed : PassesAll policy frame before operands (.ok bindings) after)
    (found : after.get? head.text = some binding)
    (other : ∀ procedure, binding ≠ .procedure procedure) :
    Evaluates policy frame before (.form head operands span)
      (.error (.notAProcedure head.text head.span)) after
  | arity {frame before head operands span bindings procedure after}
    (named : Operator.ofName? head.text = none)
    (passed : PassesAll policy frame before operands (.ok bindings) after)
    (found : after.get? head.text = some (.procedure procedure))
    (unequal : procedure.arity ≠ bindings.length) :
    Evaluates policy frame before (.form head operands span)
      (.error (.arityMismatch procedure.name procedure.arity bindings.length span)) after
  | call {frame before head operands span bindings procedure middle result after}
    (named : Operator.ofName? head.text = none)
    (passed : PassesAll policy frame before operands (.ok bindings) middle)
    (found : middle.get? head.text = some (.procedure procedure))
    (equal : procedure.arity = bindings.length)
    (body : Evaluates policy (some (.ofArguments procedure.parameters bindings)) middle
      procedure.body result after) :
    Evaluates policy frame before (.form head operands span) result after

inductive Operates (policy : ArgumentErrors) :
    Option Frame → Operator → Globals → List Expr → Span → Except EvalError Value → Globals → Prop
  | sum {frame before operands span result after}
    (folded : Folds policy frame .plus (· + ·) before 0 operands result after) :
    Operates policy frame .plus before operands span (result.map .number) after
  | product {frame before operands span result after}
    (folded : Folds policy frame .times (· * ·) before 1 operands result after) :
    Operates policy frame .times before operands span (result.map .number) after
  | opposite {frame before operand span result after}
    (counted : Counts policy frame .minus before operand result after) :
    Operates policy frame .minus before [operand] span (result.map fun x => .number (-x)) after
  | inverse {frame before operand span result after}
    (folded : Folds policy frame .divide (· / ·) before 1 [operand] result after) :
    Operates policy frame .divide before [operand] span (result.map .number) after
  | difference {frame before first second rest span x middle result after}
    (counted : Counts policy frame .minus before first (.ok x) middle)
    (folded : Folds policy frame .minus (· - ·) middle x (second :: rest) result after) :
    Operates policy frame .minus before (first :: second :: rest) span (result.map .number) after
  | quotient {frame before first second rest span x middle result after}
    (counted : Counts policy frame .divide before first (.ok x) middle)
    (folded : Folds policy frame .divide (· / ·) middle x (second :: rest) result after) :
    Operates policy frame .divide before (first :: second :: rest) span (result.map .number) after
  | seedFails {frame op before first second rest span err after} (seeded : op.seeded = true)
    (failed : Counts policy frame op before first (.error err) after) :
    Operates policy frame op before (first :: second :: rest) span (.error err) after
  | seedless {frame op globals span} (seeded : op.seeded = true) :
    Operates policy frame op globals [] span (.ok (.number 0)) globals
  | conjunction {frame before operands span result after}
    (decided : Decides policy frame .and true before operands result after) :
    Operates policy frame .and before operands span (result.map .boolean) after
  | disjunction {frame before operands span result after}
    (decided : Decides policy frame .or false before operands result after) :
    Operates policy frame .or before operands span (result.map .boolean) after
  | negation {frame before operand span result after}
    (judged : Judges policy frame .not before operand result after) :
    Operates policy frame .not before [operand] span (result.map fun b => .boolean !b) after
  | negationArity {frame globals operands span} (count : operands.length ≠ 1) :
    Operates policy frame .not globals operands span
      (.error (.arityMismatch Operator.not.symbol 1 operands.length span)) globals
  | comparison {frame op holds before left right span a middle b after}
    (compares : op.compares? = some holds)
    (first : Counts policy frame op before left (.ok a) middle)
    (second : Counts policy frame op middle right (.ok b) after) :
    Operates policy frame op before [left, right] span (.ok (.boolean (holds a b))) after
  | leftFails {frame op holds before left right span err after}
    (compares : op.compares? = some holds)
    (failed : Counts policy frame op before left (.error err) after) :
    Operates policy frame op before [left, right] span (.error err) after
  | rightFails {frame op holds before left right span a middle err after}
    (compares : op.compares? = some holds)
    (first : Counts policy frame op before left (.ok a) middle)
    (failed : Counts policy frame op middle right (.error err) after) :
    Operates policy frame op before [left, right] span (.error err) after
  | comparisonArity {frame op holds globals operands span} (compares : op.compares? = some holds)
    (count : operands.length ≠ 2) :
    Operates policy frame op globals operands span
      (.error (.arityMismatch op.symbol 2 operands.length span)) globals
  | taken {frame before test yes no span value middle result after}
    (tested : Evaluates policy frame before test (.ok value) middle)
    (holds : value.truth? = some true)
    (branch : Evaluates policy frame middle yes result after) :
    Operates policy frame .conditional before [test, yes, no] span result after
  | skipped {frame before test yes no span value middle result after}
    (tested : Evaluates policy frame before test (.ok value) middle)
    (fails : value.truth? ≠ some true)
    (branch : Evaluates policy frame middle no result after) :
    Operates policy frame .conditional before [test, yes, no] span result after
  | testFails {frame before test yes no span err after}
    (failed : Evaluates policy frame before test (.error err) after) :
    Operates policy frame .conditional before [test, yes, no] span (.error err) after
  | conditionalShape {frame globals operands span} (count : operands.length ≠ 3) :
    Operates policy frame .conditional globals operands span
      (.error (.malformedConditional operands.length span)) globals
  | defineValue {frame before name body span value after}
    (evaluated : Evaluates policy frame before body (.ok value) after) :
    Operates policy frame .define before [.name name, body] span (.ok .define)
      (after.insert name.text (.ofValue value))
  | defineFails {frame before name body span err after}
    (failed : Evaluates policy frame before body (.error err) after) :
    Operates policy frame .define before [.name name, body] span (.error err) after
  | defineProcedure {frame globals head place body span} {names : List Name}
    (free : Operator.ofName? head.text = none) :
    Operates policy frame .define globals [.form head (names.map .name) place, body] span
      (.ok .define)
      (globals.insert head.text (.procedure ⟨head.text, names.map (·.text), body⟩))
  | defineParameter {frame globals head parameter others place body span} {names : List Name}
    (free : Operator.ofName? head.text = none) (unnamed : parameter.asName? = none) :
    Operates policy frame .define globals
      [.form head (names.map .name ++ parameter :: others) place, body] span
      (.error (.malformedDefine .parameter parameter.span)) globals
  | defineBuiltin {frame globals head op parameters place body span}
    (spelled : Operator.ofName? head.text = some op) :
    Operates policy frame .define globals [.form head parameters place, body] span
      (.error (.malformedDefine .builtin head.span)) globals
  | defineNumber {frame globals x place body span} :
    Operates policy frame .define globals [.number x place, body] span
      (.error (.malformedDefine .target place)) globals
  | defineBoolean {frame globals b place body span} :
    Operates policy frame .define globals [.boolean b place, body] span
      (.error (.malformedDefine .target place)) globals
  | defineShape {frame globals operands span} (count : operands.length ≠ 2) :
    Operates policy frame .define globals operands span
      (.error (.malformedDefine .shape span)) globals

inductive Counts (policy : ArgumentErrors) :
    Option Frame → Operator → Globals → Expr → Except EvalError Float → Globals → Prop
  | number {frame op before operand value x after}
    (evaluated : Evaluates policy frame before operand (.ok value) after)
    (numeric : value.number? = some x) :
    Counts policy frame op before operand (.ok x) after
  | mismatch {frame op before operand value after}
    (evaluated : Evaluates policy frame before operand (.ok value) after)
    (other : value.number? = none) :
    Counts policy frame op before operand (.error (.typeMismatch op .number operand.span)) after
  | fails {frame op before operand err after}
    (failed : Evaluates policy frame before operand (.error err) after) :
    Counts policy frame op before operand (.error err) after

inductive Judges (policy : ArgumentErrors) :
    Option Frame → Operator → Globals → Expr → Except EvalError Bool → Globals → Prop
  | truth {frame op before operand value b after}
    (evaluated : Evaluates policy frame before operand (.ok value) after)
    (truthful : value.truth? = some b) :
    Judges policy frame op before operand (.ok b) after
  | mismatch {frame op before operand value after}
    (evaluated : Evaluates policy frame before operand (.ok value) after)
    (other : value.truth? = none) :
    Judges policy frame op before operand (.error (.typeMismatch op .truth operand.span)) after
  | fails {frame op before operand err after}
    (failed : Evaluates policy frame before operand (.error err) after) :
    Judges policy frame op before operand (.error err) after

inductive Folds (policy : ArgumentErrors) :
    Option Frame → Operator → (Float → Float → Float) → Globals → Float → List Expr →
      Except EvalError Float → Globals → Prop
  | nil {frame op combine globals total} :
    Folds policy frame op combine globals total [] (.ok total) globals
  | next {frame op combine before total operand rest x middle result after}
    (counted : Counts policy frame op before operand (.ok x) middle)
    (usable : op.refuses x = false)
    (folded : Folds policy frame op combine middle (combine total x) rest result after) :
    Folds policy frame op combine before total (operand :: rest) result after
  | zero {frame op combine before total operand rest x after}
    (counted : Counts policy frame op before operand (.ok x) after)
    (refused : op.refuses x = true) :
    Folds policy frame op combine before total (operand :: rest)
      (.error (.divideByZero operand.span)) after
  | fails {frame op combine before total operand rest err after}
    (failed : Counts policy frame op before operand (.error err) after) :
    Folds policy frame op combine before total (operand :: rest) (.error err) after

inductive Decides (policy : ArgumentErrors) :
    Option Frame → Operator → Bool → Globals → List Expr → Except EvalError Bool → Globals → Prop
  | nil {frame op neutral globals} :
    Decides policy frame op neutral globals [] (.ok neutral) globals
  | next {frame op neutral before operand rest middle result after}
    (judged : Judges policy frame op before operand (.ok neutral) middle)
    (decided : Decides policy frame op neutral middle rest result after) :
    Decides policy frame op neutral before (operand :: rest) result after
  | stop {frame op neutral before operand rest after}
    (judged : Judges policy frame op before operand (.ok !neutral) after) :
    Decides policy frame op neutral before (operand :: rest) (.ok !neutral) after
  | fails {frame op neutral before operand rest err after}
    (failed : Judges policy frame op before operand (.error err) after) :
    Decides policy frame op neutral before (operand :: rest) (.error err) after

inductive Passes (policy : ArgumentErrors) :
    Option Frame → Globals → Expr → Except EvalError Binding → Globals → Prop
  | value {frame before operand value after}
    (evaluated : Evaluates policy frame before operand (.ok value) after) :
    Passes policy frame before operand (.ok (.ofValue value)) after
  | dropped {frame before operand err after} (swallows : policy = .swallow)
    (failed : Evaluates policy frame before operand (.error err) after) :
    Passes policy frame before operand (.ok .void) after
  | fails {frame before operand err after} (propagates : policy = .propagate)
    (failed : Evaluates policy frame before operand (.error err) after) :
    Passes policy frame before operand (.error err) after

inductive PassesAll (policy : ArgumentErrors) :
    Option Frame → Globals → List Expr → Except EvalError (List Binding) → Globals → Prop
  | nil {frame globals} : PassesAll policy frame globals [] (.ok []) globals
  | next {frame before operand rest binding middle result after}
    (passed : Passes policy frame before operand (.ok binding) middle)
    (others : PassesAll policy frame middle rest result after) :
    PassesAll policy frame before (operand :: rest) (result.map (binding :: ·)) after
  | fails {frame before operand rest err after}
    (failed : Passes policy frame before operand (.error err) after) :
    PassesAll policy frame before (operand :: rest) (.error err) after

end

def Settled {α : Type} : Except EvalError α → Prop
  | .ok _ => True
  | .error err => err.isFatal = false

theorem settled_map {α β : Type} {f : α → β} {result : Except EvalError α} :
    Settled (result.map f) ↔ Settled result := by
  cases result <;> rfl

theorem Settled.error {α β : Type} {err : EvalError}
    (settled : Settled (.error err : Except EvalError α)) : Settled (.error err : Except EvalError β) :=
  settled

section

variable {policy : ArgumentErrors}

mutual

theorem Evaluates.settled {frame before expr result after} :
    Evaluates policy frame before expr result after → Settled result
  | .number | .boolean | .bound _ => trivial
  | .unbound _ | .calleeUnbound .. | .calleeOther .. | .arity .. => rfl
  | .form _ operated => operated.settled
  | .argumentsFail _ failed => failed.settled.error
  | .call _ _ _ _ body => body.settled

theorem Operates.settled {frame op before operands span result after} :
    Operates policy frame op before operands span result after → Settled result
  | .sum folded | .product folded | .inverse folded => settled_map.mpr folded.settled
  | .difference _ folded | .quotient _ folded => settled_map.mpr folded.settled
  | .opposite counted => settled_map.mpr counted.settled
  | .conjunction decided | .disjunction decided => settled_map.mpr decided.settled
  | .negation judged => settled_map.mpr judged.settled
  | .seedFails _ failed | .leftFails _ failed | .rightFails _ _ failed => failed.settled.error
  | .testFails failed | .defineFails failed => failed.settled
  | .taken _ _ branch | .skipped _ _ branch => branch.settled
  | .seedless _ | .comparison .. | .defineValue _ | .defineProcedure _ => trivial
  | .negationArity _ | .comparisonArity .. | .conditionalShape _ => rfl
  | .defineParameter .. | .defineBuiltin _ | .defineNumber | .defineBoolean | .defineShape _ => rfl

theorem Counts.settled {frame op before operand result after} :
    Counts policy frame op before operand result after → Settled result
  | .number .. => trivial
  | .mismatch .. => rfl
  | .fails failed => failed.settled.error

theorem Judges.settled {frame op before operand result after} :
    Judges policy frame op before operand result after → Settled result
  | .truth .. => trivial
  | .mismatch .. => rfl
  | .fails failed => failed.settled.error

theorem Folds.settled {frame op combine before total operands result after} :
    Folds policy frame op combine before total operands result after → Settled result
  | .nil => trivial
  | .next _ _ folded => folded.settled
  | .zero .. => rfl
  | .fails failed => failed.settled

theorem Decides.settled {frame op neutral before operands result after} :
    Decides policy frame op neutral before operands result after → Settled result
  | .nil | .stop _ => trivial
  | .next _ decided => decided.settled
  | .fails failed => failed.settled

theorem Passes.settled {frame before operand result after} :
    Passes policy frame before operand result after → Settled result
  | .value _ | .dropped .. => trivial
  | .fails _ failed => failed.settled.error

theorem PassesAll.settled {frame before operands result after} :
    PassesAll policy frame before operands result after → Settled result
  | .nil => trivial
  | .next _ others => settled_map.mpr others.settled
  | .fails failed => failed.settled.error

end

end

end LineLisp
