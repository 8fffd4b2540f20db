import LineLisp.Proofs.Relocation

/-! Tokens at other places.
They are read as the same expression at other places, or refused for the same
reason. -/
namespace LineLisp

structure Span.Steady (move : Span → Span) : Prop where
  unknown : move .unknown = .unknown
  till : ∀ first last, move (first.till last) = (move first).till (move last)

variable {move : Span → Span}

theorem Token.kind_relocate (token : Token) : (token.relocate move).kind = token.kind := rfl

theorem Token.coveringSpan_relocate (steady : Span.Steady move) (tokens : List Token) :
    coveringSpan (tokens.map (·.relocate move)) = move (coveringSpan tokens) := by
  cases tokens with
  | nil => exact steady.unknown.symm
  | cons first rest =>
    simp [coveringSpan, Span.covering, steady.till, Token.relocate, Function.comp_def,
      List.getLastD_eq_getLast?]

variable (move)

def ParseError.relocated {α : Type} (shift : α → α) : Except ParseError α → Except ParseError α
  | .ok read => .ok (shift read)
  | .error err => .error (err.relocate move)

def OpenForm.relocate (form : OpenForm) : OpenForm where
  opening := move form.opening
  head := form.head.relocate move
  operands := form.operands.map (·.relocate move)

namespace Progress

open ParseError

def relocate : Progress → Progress
  | start => .start
  | opened opening outer => .opened (move opening) (outer.map (·.relocate move))
  | within form outer => .within (form.relocate move) (outer.map (·.relocate move))
  | complete expr => .complete (expr.relocate move)

theorem atom_relocate (token : Token) :
    atom (token.relocate move) = relocated move (·.relocate move) (atom token) := by
  unfold atom
  rw [Token.kind_relocate]
  cases token.kind <;> rfl

theorem supply_relocate (expr : Expr) (pending : List OpenForm) :
    supply (expr.relocate move) (pending.map (·.relocate move)) =
      (supply expr pending).relocate move := by
  cases pending <;> rfl

theorem operand_relocate (pending : List OpenForm) (token : Token) :
    operand (pending.map (·.relocate move)) (token.relocate move) =
      relocated move (·.relocate move) (operand pending token) := by
  unfold operand
  rw [Token.kind_relocate, List.length_map, atom_relocate]
  cases token.kind with
  | leftParen =>
    dsimp only
    split <;> rfl
  | _ =>
    cases atom token with
    | ok expr => exact congrArg Except.ok (supply_relocate move expr pending)
    | error err => rfl

variable {move}

theorem close_relocate (steady : Span.Steady move) (form : OpenForm) (closing : Span) :
    (form.relocate move).close (move closing) = (form.close closing).relocate move := by
  unfold OpenForm.close
  rw [Expr.relocate_form, steady.till, List.map_reverse]
  rfl

theorem closable_relocate (form : OpenForm) : (form.relocate move).closable = form.closable := by
  unfold OpenForm.closable
  rw [show (form.relocate move).operands.isEmpty = form.operands.isEmpty from List.isEmpty_map]
  rfl

theorem step_relocate (steady : Span.Steady move) (whole : Span) (progress : Progress)
    (token : Token) : step (move whole) (progress.relocate move) (token.relocate move) =
      relocated move (·.relocate move) (step whole progress token) := by
  cases progress with
  | start => exact operand_relocate move [] token
  | opened opening outer =>
    unfold step relocate
    dsimp only
    rw [Token.kind_relocate]
    cases token.kind <;> rfl
  | within form outer =>
    have empty : (form.relocate move).operands.isEmpty = form.operands.isEmpty := List.isEmpty_map
    unfold step relocate
    dsimp only
    rw [Token.kind_relocate, closable_relocate, empty]
    cases token.kind with
    | rightParen =>
      dsimp only
      split
      · change Except.ok (supply ((form.relocate move).close (move token.span)) _) = _
        rw [close_relocate steady, supply_relocate]
        rfl
      · exact congrArg (Except.error <| missingOperand _ ·) (steady.till _ _).symm
    | operator op =>
      dsimp only
      split
      · exact congrArg (Except.error <| doubledOperator _ _ ·) (steady.till _ _).symm
      · rfl
    | _ => exact operand_relocate move (form :: outer) token
  | complete expr =>
    change Except.error (trailingTokens _ _) = Except.error (trailingTokens _ _)
    rw [steady.till]
    rfl

theorem finish_relocate (steady : Span.Steady move) (whole : Span) (progress : Progress) :
    finish (move whole) (progress.relocate move) =
      relocated move (·.relocate move) (finish whole progress) := by
  cases progress with
  | start | complete _ => rfl
  | opened opening outer => exact congrArg (Except.error <| unterminated ·) (steady.till _ _).symm
  | within form outer => exact congrArg (Except.error <| unterminated ·) (steady.till _ _).symm

end Progress

variable {move}

theorem parse_relocate (steady : Span.Steady move) (tokens : List Token) :
    parse (tokens.map (·.relocate move)) =
      ParseError.relocated move (·.relocate move) (parse tokens) := by
  have read (whole : Span) (progress : Progress) (tokens : List Token) :
      (tokens.map (·.relocate move)).foldlM (Progress.step (move whole)) (progress.relocate move) =
        ParseError.relocated move (·.relocate move)
          (tokens.foldlM (Progress.step whole) progress) := by
    induction tokens generalizing progress with
    | nil => rfl
    | cons token rest ih =>
      rw [List.map_cons, List.foldlM_cons, List.foldlM_cons, Progress.step_relocate steady]
      cases Progress.step whole progress token with
      | ok next => exact ih next
      | error err => rfl
  unfold parse
  dsimp only
  rw [Token.coveringSpan_relocate steady]
  have moved := read (Token.coveringSpan tokens) .start tokens
  change List.foldlM _ Progress.start _ = _ at moved
  rw [moved]
  cases tokens.foldlM (Progress.step (Token.coveringSpan tokens)) .start with
  | ok progress => exact Progress.finish_relocate steady _ progress
  | error err => rfl

end LineLisp
