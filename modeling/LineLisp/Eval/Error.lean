import LineLisp.Operator
import LineLisp.Span

/-! Why an evaluation fails. -/
namespace LineLisp

inductive Expected where
  | number
  | truth
deriving DecidableEq, Repr

def Expected.text : Expected → String
  | number => "number"
  | truth => "boolean or number"

inductive DefineFault where
  | shape
  | builtin
  | parameter
  | target
deriving DecidableEq, Repr

def DefineFault.text : DefineFault → String
  | shape => "define needs a name and an expression"
  | builtin => "a built-in operator can't be redefined"
  | parameter => "parameters must be names"
  | target => "define should be followed by a name"

inductive EvalError where
  | undefined (name : String) (span : Span)
  | typeMismatch (operator : Operator) (expected : Expected) (span : Span)
  | arityMismatch (name : String) (expected found : Nat) (span : Span)
  | divideByZero (span : Span)
  | notAProcedure (name : String) (span : Span)
  | malformedDefine (fault : DefineFault) (span : Span)
  | malformedConditional (found : Nat) (span : Span)
  | stackExhausted (depth : Nat)
  | nestingTooDeep (depth : Nat)
deriving DecidableEq, Repr

namespace EvalError

def message : EvalError → String
  | undefined name span => name ++ ": undefined at " ++ span.text
  | typeMismatch operator expected span =>
    "operand for " ++ operator.symbol ++ " should be " ++ expected.text ++ " at " ++ span.text
  | arityMismatch name expected found span =>
    name ++ ": arity mismatch, expected " ++ toString expected ++ " operand(s) but got " ++
      toString found ++ " at " ++ span.text
  | divideByZero span => "divide by zero error at " ++ span.text
  | notAProcedure name span => "application: " ++ name ++ " is not a procedure at " ++ span.text
  | malformedDefine fault span => "malformed define: " ++ fault.text ++ " at " ++ span.text
  | malformedConditional found span =>
    "if statement should have three expressions, got " ++ toString found ++ " at " ++ span.text
  | stackExhausted depth => "call stack exhausted at depth " ++ toString depth
  | nestingTooDeep depth => "evaluation nested too deeply at depth " ++ toString depth

/-- A limit was hit: the session ends, and no argument swallows the error. -/
def isFatal : EvalError → Bool
  | stackExhausted _ | nestingTooDeep _ => true
  | _ => false

end EvalError

end LineLisp
