import LineLisp.Operator
import LineLisp.Span

/-! Tokens of a line.
A token's kind carries what the token means: a number's value, an operator, a
truth value. Two tokens are the same if they differ at most in their place. -/
namespace LineLisp

inductive TokenKind where
  | leftParen
  | rightParen
  | number (value : Float)
  | operator (op : Operator)
  | boolean (value : Bool)
  | name
  | endOfLine
  | invalid
deriving DecidableEq

namespace TokenKind

def operatorLabel : Operator → String
  | .plus => "PLUS"
  | .minus => "MINUS"
  | .times => "STAR"
  | .divide => "SLASH"
  | .and => "AND"
  | .or => "OR"
  | .not => "NOT"
  | .equal => "EQUAL"
  | .greater => "GREATER"
  | .greaterEqual => "GREATEREQUAL"
  | .less => "LESS"
  | .lessEqual => "LESSEQUAL"
  | .conditional => "IF"
  | .define => "DEFINE"

def label : TokenKind → String
  | leftParen => "LPAR"
  | rightParen => "RPAR"
  | number _ => "NUMBER"
  | operator op => operatorLabel op
  | boolean true => "TRUE"
  | boolean false => "FALSE"
  | name => "NAME"
  | endOfLine => "ENDMARKER"
  | invalid => "ERRORTOKEN"

def isOperator : TokenKind → Bool
  | operator _ => true
  | _ => false

def isArithmetic : TokenKind → Bool
  | operator op => op.isArithmetic
  | _ => false

/-- Equality up to the equality of numbers. -/
def same : TokenKind → TokenKind → Bool
  | number a, number b => a == b
  | a, b => a = b

end TokenKind

structure Token where
  kind : TokenKind := .invalid
  lexeme : String := ""
  span : Span := .unknown
deriving DecidableEq

namespace Token

def number? (token : Token) : Option Float :=
  match token.kind with
  | .number value => some value
  | _ => none

def text (token : Token) : String :=
  token.kind.label ++ "('" ++ token.lexeme ++ "')"

def same (a b : Token) : Bool :=
  a.kind.same b.kind && a.lexeme == b.lexeme

def sameAll : List Token → List Token → Bool
  | [], [] => true
  | a :: as, b :: bs => a.same b && sameAll as bs
  | _, _ => false

def coveringSpan (tokens : List Token) : Span :=
  Span.covering (tokens.map (·.span))

end Token

end LineLisp
