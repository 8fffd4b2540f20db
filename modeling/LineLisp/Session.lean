import LineLisp.Eval
import LineLisp.Expr.Parser
import LineLisp.Token.Lexer

/-! Running lines against an environment.
A line is cut into tokens, read as one expression and evaluated; the first of
these steps that fails gives the error. Whatever the result, the session goes on
with the environment that the line leaves. -/
namespace LineLisp

inductive Error where
  | lex (err : LexError)
  | parse (err : ParseError)
  | eval (err : EvalError)

namespace Error

def message : Error → String
  | lex err => "error in tokenizer phase: " ++ err.message
  | parse err => "error in parser phase: " ++ err.message
  | eval err => "error in evaluation phase: " ++ err.message

def isFatal : Error → Bool
  | eval err => err.isFatal
  | _ => false

end Error

structure Outcome (ε : Type) where
  result : Except ε Value
  env : Environment
  log : List Event

namespace Environment

def evaluate (env : Environment) (expr : Expr) : Outcome EvalError :=
  match expr.evaluate { env } with
  | .ok value after => ⟨.ok value, after.env, after.log.reverse⟩
  | .error err after => ⟨.error err, after.env, after.log.reverse⟩

def runLine (env : Environment) (line : String) : Outcome Error :=
  let scan := (Lexer.ofLine line).scan
  let read := scan.tokens.map Event.token
  match scan.failure with
  | some err => ⟨.error (.lex err), env, read⟩
  | none =>
    match parse scan.tokens with
    | .error err => ⟨.error (.parse err), env, read⟩
    | .ok expr =>
      let outcome := env.evaluate expr
      ⟨outcome.result.mapError .eval, outcome.env, read ++ outcome.log⟩

def runLines (env : Environment) (lines : List String) : Environment :=
  lines.foldl (fun env line => (env.runLine line).env) env

end Environment

end LineLisp
