import LineLisp.Expr

/-! Reading an expression from its tokens.
An expression is a number, a truth value, a name, or a form in parentheses: a
head, which is an operator or a name, and expressions. The reader goes through
the tokens once and keeps the forms that are still open, innermost first, with
the operands so far, latest first; every token is accepted or refused on sight.
A difference or a quotient of nothing may not be closed. -/
namespace LineLisp

def maxNesting : Nat := 200

inductive ParseError where
  | emptyExpression
  | unexpectedToken (found : String) (span : Span)
  | invalidHead (found : String) (span : Span)
  | doubledOperator (first second : String) (span : Span)
  | missingOperand (operator : String) (span : Span)
  | unterminated (span : Span)
  | nestingTooDeep (limit : Nat) (span : Span)
  | trailingTokens (found : String) (span : Span)
deriving DecidableEq, Repr

def ParseError.message : ParseError → String
  | emptyExpression => "empty expression, you should input an expression"
  | unexpectedToken found span => "unexpected token '" ++ found ++ "' at " ++ span.text
  | invalidHead found span =>
    "left parenthesis should be followed by an operator or a name, found '" ++ found ++ "' at " ++
      span.text
  | doubledOperator first second span =>
    "'" ++ first ++ "' shouldn't be followed by operator '" ++ second ++ "' at " ++ span.text
  | missingOperand operator span =>
    "'" ++ operator ++ "' needs at least one operand at " ++ span.text
  | unterminated span => "missing right parenthesis for expression starting at " ++ span.text
  | nestingTooDeep limit span =>
    "expression nested deeper than " ++ toString limit ++ " levels at " ++ span.text
  | trailingTokens found span =>
    "there shouldn't be anything after the closing parenthesis, found '" ++ found ++ "' at " ++
      span.text

structure OpenForm where
  opening : Span
  head : Token
  operands : List Expr

namespace OpenForm

def push (form : OpenForm) (operand : Expr) : OpenForm :=
  { form with operands := operand :: form.operands }

def close (form : OpenForm) (closing : Span) : Expr :=
  .form (Name.ofToken form.head) form.operands.reverse (form.opening.till closing)

def closable (form : OpenForm) : Bool :=
  match form.head.kind with
  | .operator .minus => !form.operands.isEmpty
  | .operator .divide => !form.operands.isEmpty
  | _ => true

end OpenForm

inductive Progress where
  | start
  | opened (opening : Span) (outer : List OpenForm)
  | within (form : OpenForm) (outer : List OpenForm)
  | complete (expr : Expr)

namespace Progress

def atom (token : Token) : Except ParseError Expr :=
  match token.kind with
  | .number value => .ok (.number value token.span)
  | .boolean value => .ok (.boolean value token.span)
  | .name => .ok (.name (Name.ofToken token))
  | _ => .error (.unexpectedToken token.lexeme token.span)

def supply (expr : Expr) : List OpenForm → Progress
  | [] => complete expr
  | form :: outer => within (form.push expr) outer

def operand (pending : List OpenForm) (token : Token) : Except ParseError Progress :=
  match token.kind with
  | .leftParen =>
    if pending.length < maxNesting then .ok (opened token.span pending)
    else .error (.nestingTooDeep maxNesting token.span)
  | _ => (atom token).map (supply · pending)

/-- Reads one more token; `whole` is the span of all tokens. -/
def step (whole : Span) (progress : Progress) (token : Token) : Except ParseError Progress :=
  match progress with
  | start => operand [] token
  | opened opening outer =>
    match token.kind with
    | .operator _ | .name => .ok (within ⟨opening, token, []⟩ outer)
    | _ => .error (.invalidHead token.lexeme token.span)
  | within form outer =>
    match token.kind with
    | .rightParen =>
      if form.closable then .ok (supply (form.close token.span) outer)
      else .error (.missingOperand form.head.lexeme (form.opening.till token.span))
    | .operator _ =>
      if form.operands.isEmpty then
        .error (.doubledOperator form.head.lexeme token.lexeme (form.head.span.till token.span))
      else .error (.unexpectedToken token.lexeme token.span)
    | _ => operand (form :: outer) token
  | complete _ => .error (.trailingTokens token.lexeme (token.span.till whole))

def finish (whole : Span) : Progress → Except ParseError Expr
  | start => .error .emptyExpression
  | opened opening _ => .error (.unterminated (opening.till whole))
  | within form _ => .error (.unterminated (form.opening.till whole))
  | complete expr => .ok expr

end Progress

def parse (tokens : List Token) : Except ParseError Expr :=
  let whole := Token.coveringSpan tokens
  tokens.foldlM (Progress.step whole) .start >>= Progress.finish whole

end LineLisp
