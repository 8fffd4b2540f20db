import LineLisp.Expr

/-! Values, procedures and what a name can be bound to.
A reference to a procedure does not call it; its value tells the name alone. -/
namespace LineLisp

inductive Value where
  | number (value : Float)
  | boolean (value : Bool)
  | define
  | procedure (name : String)
  | void (name : String)
deriving DecidableEq

namespace Value

def text : Value → String
  | number value => Number.shortest value
  | boolean true => "#t"
  | boolean false => "#f"
  | define => "define"
  | procedure name => "#<procedure:" ++ name ++ ">"
  | void name => "#<void:" ++ name ++ ">"

def number? : Value → Option Float
  | number value => some value
  | _ => none

def boolean? : Value → Option Bool
  | boolean value => some value
  | _ => none

/-- Every number counts as true; what is neither a number nor a boolean has no
truth value. -/
def truth? : Value → Option Bool
  | number _ => some true
  | boolean value => some value
  | _ => none

end Value

structure Procedure where
  name : String
  parameters : List String
  body : Expr

def Procedure.arity (procedure : Procedure) : Nat :=
  procedure.parameters.length

inductive Binding where
  | number (value : Float)
  | boolean (value : Bool)
  | procedure (meant : Procedure)
  /-- Neither a number nor a boolean: a definition's result, a procedure that
  was only named, or an argument that failed. -/
  | void

namespace Binding

def ofValue : Value → Binding
  | .number value => number value
  | .boolean value => boolean value
  | .define | .procedure _ | .void _ => void

def resolve (name : String) : Binding → Value
  | number value => .number value
  | boolean value => .boolean value
  | procedure _ => .procedure name
  | void => .void name

def text : Binding → String
  | number value => Number.shortest value
  | boolean true => "#t"
  | boolean false => "#f"
  | procedure meant => "#<procedure:" ++ meant.name ++ ">"
  | void => "#<void>"

end Binding

end LineLisp
