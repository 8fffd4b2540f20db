import LineLisp.Number.Printer
import LineLisp.Token

/-! Expressions.
A form has a head name and operands; whether the head is built in or names a
procedure is settled when the form is evaluated. -/
namespace LineLisp

structure Name where
  text : String
  span : Span
deriving DecidableEq, Repr

def Name.ofToken (token : Token) : Name :=
  ⟨token.lexeme, token.span⟩

inductive Expr where
  | number (value : Float) (span : Span)
  | boolean (value : Bool) (span : Span)
  | name (ident : Name)
  | form (head : Name) (operands : List Expr) (span : Span)

namespace Expr

def span : Expr → Span
  | number _ span => span
  | boolean _ span => span
  | name ident => ident.span
  | form _ _ span => span

def asName? : Expr → Option Name
  | name ident => some ident
  | _ => none

mutual

def items : Expr → List String
  | number value _ => [Number.fixedTwo value]
  | boolean true _ => ["true"]
  | boolean false _ => ["false"]
  | name ident => [ident.text]
  | form head operands _ => head.text :: itemsOfAll operands

def itemsOfAll : List Expr → List String
  | [] => []
  | operand :: rest => operand.items ++ itemsOfAll rest

end

def render (expr : Expr) : String :=
  String.join (expr.items.map (· ++ " "))

end Expr

end LineLisp
