import LineLisp.Text.Blank
import LineLisp.Text.Bytes
import LineLisp.Token.Pattern

/-! Reading a line token by token.
A lexer holds what is left of a line, the column where that begins and the token
before it. A number may not follow an arithmetic operator directly: that is
refused rather than read as two tokens. -/
namespace LineLisp

inductive LexError where
  | invalidToken (remainder : String) (span : Span)
  | gluedNumber (lexeme : String) (span : Span)
deriving DecidableEq, Repr

def LexError.message : LexError → String
  | invalidToken remainder span => "invalid token: " ++ remainder ++ " at " ++ span.text
  | gluedNumber lexeme span =>
    "invalid token: " ++ lexeme ++ " at " ++ span.text ++
      " (separate the operator from the number with a space)"

structure Lexer where
  rest : List Char
  column : Nat := 0
  previous : Option Token := none

namespace Lexer

def ofLine (line : String) : Lexer :=
  { rest := line.toList }

def remainder (lexer : Lexer) : String :=
  String.ofList lexer.rest

def advance (lexer : Lexer) (count : Nat) : Lexer :=
  { lexer with
    rest := lexer.rest.drop count
    column := lexer.column + Text.byteLength (lexer.rest.take count) }

def blankCount (lexer : Lexer) : Nat :=
  (lexer.rest.takeWhile Text.isBlank).length

def skipBlanks (lexer : Lexer) : Lexer :=
  lexer.advance lexer.blankCount

def token? (lexer : Lexer) (pattern : Pattern) (count : Nat) : Option Token :=
  let lexeme := lexer.rest.take count
  (pattern.kind? lexeme).map fun kind =>
    { kind
      lexeme := String.ofList lexeme
      span := .columns lexer.column (lexer.column + Text.byteLength lexeme) }

def endToken (lexer : Lexer) : Token :=
  { kind := .endOfLine, span := .columns lexer.column lexer.column }

def gluedTo? (lexer : Lexer) (token : Token) : Option Token :=
  match token.number? with
  | some _ => if lexer.blankCount = 0 then lexer.previous.filter (·.kind.isArithmetic) else none
  | none => none

/-- Reads the next token, and says where the lexer is after that. Blanks are
consumed in any case, an invalid token is not, a glued number is without
becoming the previous token. -/
def next (lexer : Lexer) : Except LexError Token × Lexer :=
  let ahead := lexer.skipBlanks
  if ahead.rest.isEmpty then (.ok ahead.endToken, ahead)
  else
    match Pattern.first? ahead.rest with
    | none =>
      (.error (.invalidToken ahead.remainder
        (.columns ahead.column (ahead.column + Text.byteLength ahead.rest))), ahead)
    | some (pattern, count) =>
      let behind := ahead.advance count
      match ahead.token? pattern count with
      | none =>
        (.error (.invalidToken ahead.remainder (.columns ahead.column behind.column)), ahead)
      | some token =>
        match lexer.gluedTo? token with
        | some before =>
          (.error (.gluedNumber (before.lexeme ++ token.lexeme) (before.span.till token.span)),
            behind)
        | none => (.ok token, { behind with previous := some token })

theorem length_skipBlanks (lexer : Lexer) : lexer.skipBlanks.rest.length ≤ lexer.rest.length := by
  simp [skipBlanks, advance]

theorem length_advance {lexer : Lexer} {count : Nat} (filled : lexer.rest ≠ [])
    (positive : 0 < count) : (lexer.advance count).rest.length < lexer.rest.length := by
  have inside : 0 < lexer.rest.length := List.length_pos_iff.mpr filled
  simp only [advance, List.length_drop]
  omega

/-- A token takes at least one character. -/
theorem length_next {lexer after : Lexer} {token : Token} (read : lexer.next = (.ok token, after))
    (more : token.kind ≠ .endOfLine) : after.rest.length < lexer.rest.length := by
  have skipped := lexer.length_skipBlanks
  unfold next at read
  simp only at read
  split at read
  · cases read
    exact absurd rfl more
  · rename_i filled
    split at read
    · cases read
    · rename_i pattern count fits
      have taken := length_advance (by simpa using filled) (Pattern.first?_pos fits)
      split at read
      · cases read
      · split at read
        · cases read
        · cases read
          exact Nat.lt_of_lt_of_le taken skipped

structure Scan where
  tokens : List Token
  failure : Option LexError

def scan (lexer : Lexer) : Scan :=
  match _read : lexer.next with
  | (.error err, _) => ⟨[], some err⟩
  | (.ok token, after) =>
    if _ended : token.kind = .endOfLine then ⟨[], none⟩
    else
      let rest := after.scan
      ⟨token :: rest.tokens, rest.failure⟩
termination_by lexer.rest.length
decreasing_by exact length_next _read _ended

end Lexer

def nextToken (text : String) (previous : Option Token) : Except LexError (Token × String) :=
  match { Lexer.ofLine text with previous }.next with
  | (.ok token, after) => .ok (token, after.remainder)
  | (.error err, _) => .error err

/-- The tokens of a line, without a token for its end. -/
def tokenize (line : String) : Except LexError (List Token) :=
  let scan := (Lexer.ofLine line).scan
  match scan.failure with
  | some err => .error err
  | none => .ok scan.tokens

end LineLisp
