import LineLisp.Environment
import LineLisp.Eval.Error

/-! What happens while a line is run, as far as a log tells it. -/
namespace LineLisp

inductive Level where
  | debug
  | trace
deriving DecidableEq, Repr

inductive Event where
  | token (read : Token)
  | evaluating (expr : Expr) (env : Environment)
  | defineValue (name : String) (value : Value)
  | defineProcedure (name : String) (parameters : List String)
  | argumentDropped (callee : String) (err : EvalError)
  | call (name : String) (depth : Nat)

namespace Event

def level : Event → Level
  | token _ | evaluating _ _ => .trace
  | _ => .debug

def message : Event → String
  | token read => "token " ++ read.text ++ " at " ++ read.span.text
  | evaluating expr env => "evaluating " ++ expr.render ++ "at depth " ++ toString env.depth
  | defineValue name value => "define " ++ name ++ " as " ++ value.text
  | defineProcedure name parameters =>
    "define procedure " ++ name ++ "(" ++ " ".intercalate parameters ++ ")"
  | argumentDropped callee err =>
    "argument of " ++ callee ++ " bound as void after: " ++ err.message
  | call name depth => "call " ++ name ++ " at depth " ++ toString depth

end Event

end LineLisp
