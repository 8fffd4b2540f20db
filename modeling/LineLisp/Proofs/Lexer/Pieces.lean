import LineLisp.Proofs.Lexer.Segment
import LineLisp.Proofs.Lexer.Spacing

/-! Reading a line piece by piece.
A token that is read off what is left of a line, with no more known of the line
than the token before, is the one that the line has there, but for its place. -/
namespace LineLisp

open Text (byteLength)

structure Token.Alike (a b : Token) : Prop where
  kind : a.kind = b.kind
  lexeme : a.lexeme = b.lexeme

inductive LexError.Alike : LexError → LexError → Prop
  | invalidToken {remainder span seat} :
    Alike (.invalidToken remainder span) (.invalidToken remainder seat)
  | gluedNumber {lexeme span seat} : Alike (.gluedNumber lexeme span) (.gluedNumber lexeme seat)

theorem length_nextToken {text rest : String} {previous : Option Token} {token : Token}
    (read : nextToken text previous = .ok (token, rest)) (more : token.kind ≠ .endOfLine) :
    rest.length < text.length := by
  unfold nextToken at read
  split at read
  · rename_i taken
    cases read
    have shorter := Lexer.length_next taken more
    rwa [← String.length_toList, Lexer.remainder, String.toList_ofList, ← String.length_toList]
  · cases read

structure Pieces where
  tokens : List (String × Token)
  failure : Option LexError

def pieces (text : String) (previous : Option Token) : Pieces :=
  match _read : nextToken text previous with
  | .error err => ⟨[], some err⟩
  | .ok (token, rest) =>
    if _ended : token.kind = .endOfLine then ⟨[], none⟩
    else
      let others := pieces rest (some token)
      ⟨(text, token) :: others.tokens, others.failure⟩
termination_by text.length
decreasing_by exact length_nextToken _read _ended

structure PieceOf (line : String) (piece : String × Token) (token : Token) : Prop where
  same : piece.2.same token = true
  place : ∃ consumed, line = consumed ++ piece.1 ∧
    token = piece.2.relocate (.shift consumed.utf8ByteSize)

namespace Lexer

variable {lexer after : Lexer} {token : Token}

theorem Step.takes {result : Except LexError Token} (step : Step lexer result after) :
    ∃ taken, lexer.rest = taken ++ after.rest ∧
      after.column = lexer.column + byteLength taken := by
  cases step with
  | @ended gap => exact ⟨gap, (List.append_nil gap).symm, rfl⟩
  | @unfit gap => exact ⟨gap, rfl, rfl⟩
  | @glued lexeme => exact ⟨lexeme, rfl, rfl⟩
  | @token gap lexeme =>
    refine ⟨gap ++ lexeme, (List.append_assoc ..).symm, ?_⟩
    rw [Text.byteLength_append, ← Nat.add_assoc]

theorem Step.remembers (step : Step lexer (.ok token) after) (more : token.kind ≠ .endOfLine) :
    after.previous = some token := by
  cases step with
  | ended => exact absurd rfl more
  | token => rfl

inductive Tells (count : Nat) : Except LexError Token → Except LexError Token → Prop
  | token {token : Token} (sound : token.kind.same token.kind = true) :
    Tells count (.ok token) (.ok (token.relocate (.shift count)))
  | error {err other} (alike : LexError.Alike err other) : Tells count (.error err) (.error other)

/-- A step depends on the text ahead and on the token before, but not on where these stand. -/
theorem Step.elsewhere {result : Except LexError Token} (step : Step lexer result after)
    {column count : Nat} (here : lexer.column = column + count) {other : Option Token}
    (alike : Option.Rel Token.Alike other lexer.previous) :
    ∃ told last, Step ⟨lexer.rest, column, other⟩ told last ∧ last.rest = after.rest ∧
      Tells count told result := by
  cases step with
  | @ended gap start previous blank =>
    obtain rfl : start = column + count := here
    have moved : (Lexer.endToken ⟨[], column + count + byteLength gap, previous⟩) =
        (Lexer.endToken ⟨[], column + byteLength gap, other⟩).relocate (.shift count) := by
      simp only [endToken, Token.relocate, Span.shift, Nat.add_right_comm]
    rw [moved]
    exact ⟨_, _, .ended blank, rfl, .token rfl⟩
  | unfit blank begins filled unfit =>
    exact ⟨_, _, .unfit blank begins filled unfit, rfl, .error .invalidToken⟩
  | glued fits number arithmetic =>
    cases alike with
    | some told =>
      rw [← told.kind] at arithmetic
      rw [← told.lexeme]
      exact ⟨_, _, .glued fits number arithmetic, rfl, .error .gluedNumber⟩
  | @token gap lexeme rest start previous pattern blank fits apart =>
    obtain rfl : start = column + count := here
    have free : (tokenAt (column + byteLength gap) pattern lexeme).number? ≠ none → gap = [] →
        ∀ before ∈ other, before.kind.isArithmetic = false := by
      intro number close before among
      cases alike with
      | none => cases among
      | some told =>
        cases among
        rw [told.kind]
        exact apart number close _ rfl
    obtain ⟨listed, accepts⟩ := Pattern.first?_accepts fits
    have sound : (tokenAt (column + byteLength gap) pattern lexeme).kind.same
        (tokenAt (column + byteLength gap) pattern lexeme).kind = true :=
      (Pattern.kind_spells listed accepts).same_self
    refine ⟨_, _, .token blank fits free, rfl, ?_⟩
    rw [Nat.add_right_comm column count, ← relocate_tokenAt count]
    exact .token sound

end Lexer

open Lexer

theorem Lexer.Step.nextToken_eq {text : String} {previous : Option Token} {token : Token}
    {last : Lexer} (step : Step ⟨text.toList, 0, previous⟩ (.ok token) last) :
    nextToken text previous = .ok (token, last.remainder) := by
  have read : { Lexer.ofLine text with previous }.next = (.ok token, last) := step.next_eq
  unfold nextToken
  rw [read]

theorem Lexer.Step.nextToken_failed {text : String} {previous : Option Token} {err : LexError}
    {last : Lexer} (step : Step ⟨text.toList, 0, previous⟩ (.error err) last) :
    nextToken text previous = .error err := by
  have read : { Lexer.ofLine text with previous }.next = (.error err, last) := step.next_eq
  unfold nextToken
  rw [read]

variable {text rest : String} {previous : Option Token} {token : Token}

theorem pieces_eq (text : String) (previous : Option Token) : pieces text previous =
    match nextToken text previous with
    | .error err => ⟨[], some err⟩
    | .ok (token, rest) =>
      if token.kind = .endOfLine then ⟨[], none⟩
      else ⟨(text, token) :: (pieces rest (some token)).tokens, (pieces rest (some token)).failure⟩ := by
  rw [pieces]
  split
  · rename_i failed
    rw [failed]
  · rename_i read
    rw [read]
    rfl

theorem pieces_ended (read : nextToken text previous = .ok (token, rest))
    (last : token.kind = .endOfLine) : pieces text previous = ⟨[], none⟩ := by
  rw [pieces_eq, read]
  exact if_pos last

theorem pieces_token (read : nextToken text previous = .ok (token, rest))
    (more : token.kind ≠ .endOfLine) : pieces text previous =
      ⟨(text, token) :: (pieces rest (some token)).tokens, (pieces rest (some token)).failure⟩ := by
  rw [pieces_eq, read]
  exact if_neg more

theorem pieces_failed {err : LexError} (failed : nextToken text previous = .error err) :
    pieces text previous = ⟨[], some err⟩ := by
  rw [pieces_eq, failed]

/-- From where a lexer stands in its line pieces are read as it reads tokens. -/
theorem pieces_scan {line consumed text : String} (split : line = consumed ++ text)
    {previous other : Option Token} (alike : Option.Rel Token.Alike other previous) :
    let scan := (⟨text.toList, consumed.utf8ByteSize, previous⟩ : Lexer).scan
    List.Forall₂ (PieceOf line) (pieces text other).tokens scan.tokens ∧
      Option.Rel LexError.Alike (pieces text other).failure scan.failure := by
  induction size : text.length using Nat.strong_induction_on generalizing consumed text previous other with
  | _ n ih =>
    have step := next_step ⟨text.toList, consumed.utf8ByteSize, previous⟩
    generalize read : (⟨text.toList, consumed.utf8ByteSize, previous⟩ : Lexer).next = pair at step
    obtain ⟨result, after⟩ := pair
    obtain ⟨told, last, again, left, tells⟩ := step.elsewhere (Nat.zero_add _).symm alike
    cases tells with
    | error alike =>
      rw [scan_failed read, pieces_failed again.nextToken_failed]
      exact ⟨.nil, .some alike⟩
    | @token token sound =>
      by_cases ended : token.kind = .endOfLine
      · rw [scan_ended read ended, pieces_ended again.nextToken_eq ended]
        exact ⟨.nil, .none⟩
      · have rest := again.nextToken_eq
        have shorter := length_nextToken rest ended
        obtain ⟨taken, whole, further⟩ := step.takes
        have remembered := step.remembers ended
        obtain ⟨chars, column, before⟩ := after
        dsimp only at left whole further remembered
        subst further remembered
        have remainder : last.remainder = String.ofList chars := congrArg String.ofList left
        have onward : line = (consumed ++ String.ofList taken) ++ last.remainder := by
          rw [remainder, String.append_assoc, ← String.ofList_append, ← whole, String.ofList_toList]
          exact split
        have told : Token.Alike token (token.relocate (.shift consumed.utf8ByteSize)) := ⟨rfl, rfl⟩
        have others := ih _ (by omega) onward (.some told) rfl
        rw [remainder, String.utf8ByteSize_append, Text.utf8ByteSize_ofList, String.toList_ofList,
          ← remainder] at others
        rw [scan_token read ended, pieces_token rest ended]
        have same : token.same (token.relocate (.shift consumed.utf8ByteSize)) = true := by
          simp only [Token.same, Token.relocate, sound, beq_self_eq_true, Bool.and_self]
        exact ⟨.cons ⟨same, consumed, split, rfl⟩ others.1, others.2⟩

/-- Pieces are read off a line as its tokens are, and to the end exactly if these are; an error
says the same of a piece as of the line. -/
theorem pieces_tokenize (line : String) :
    (∀ tokens, tokenize line = .ok tokens →
      List.Forall₂ (PieceOf line) (pieces line none).tokens tokens) ∧
    ((pieces line none).failure = none ↔ ∃ tokens, tokenize line = .ok tokens) ∧
    ∀ err, tokenize line = .error err →
      List.Forall₂ (PieceOf line) (pieces line none).tokens (Lexer.ofLine line).scan.tokens ∧
      ∃ other, (pieces line none).failure = some other ∧ other.Alike err := by
  have read : List.Forall₂ (PieceOf line) (pieces line none).tokens (Lexer.ofLine line).scan.tokens ∧
      Option.Rel LexError.Alike (pieces line none).failure (Lexer.ofLine line).scan.failure :=
    pieces_scan String.empty_append.symm .none
  obtain ⟨tokens, failures⟩ := read
  unfold tokenize
  dsimp only
  generalize (pieces line none).failure = stopped, (Lexer.ofLine line).scan.failure = failed
    at failures
  cases failures with
  | none =>
    refine ⟨?_, ⟨fun _ => ⟨_, rfl⟩, fun _ => rfl⟩, nofun⟩
    rintro _ ⟨⟩
    exact tokens
  | some alike =>
    refine ⟨nofun, ⟨nofun, nofun⟩, ?_⟩
    rintro _ ⟨⟩
    exact ⟨tokens, _, rfl, alike⟩

/-- A line that is read, and one with an operator that is glued to a number. -/
theorem pieces_tokenize_glued :
    (∃ tokens, tokenize "\u3000(f 05)" = .ok tokens ∧
      List.Forall₂ (PieceOf "\u3000(f 05)") (pieces "\u3000(f 05)" none).tokens tokens) ∧
    tokenize "\u3000(*5)" = .error (.gluedNumber "*5" (.columns 4 6)) ∧
    ∃ other, (pieces "\u3000(*5)" none).failure = some other ∧
      other.Alike (.gluedNumber "*5" (.columns 4 6)) := by
  have read : tokenize "\u3000(f 05)" = .ok [
      ⟨.leftParen, "(", .columns 3 4⟩, ⟨.name, "f", .columns 4 5⟩,
      ⟨.number (Number.ofNumeral ['0']), "0", .columns 6 7⟩,
      ⟨.number (Number.ofNumeral ['5']), "5", .columns 7 8⟩, ⟨.rightParen, ")", .columns 8 9⟩] := by
    decide +kernel
  have failed : tokenize "\u3000(*5)" = .error (.gluedNumber "*5" (.columns 4 6)) := by
    decide +kernel
  have stopped := (pieces_tokenize "\u3000(*5)").2.2 _ failed
  exact ⟨⟨_, read, (pieces_tokenize "\u3000(f 05)").1 _ read⟩, failed, stopped.2⟩

end LineLisp
