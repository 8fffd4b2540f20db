import LineLisp.Expr.Parser
import LineLisp.Proofs.Grammar

/-! The parser accepts exactly its grammar.
What it has read is at every moment the tokens of open forms, whose operands so
far are derived, and the tokens of a derivation that is valid and not nested too
deep take it from one such moment to another. -/
namespace LineLisp

open LineLisp.Derivation (Heads Demanding tokensOfAll exprs)

namespace Progress

inductive Pending : List Token → List OpenForm → Prop
  | none : Pending [] []
  | form {read outer opening head operands} (outside : Pending read outer)
    (opens : opening.kind = .leftParen) (heads : Heads head) (nested : outer.length < maxNesting)
    (valid : ∀ operand ∈ operands, operand.Valid)
    (shallow : ∀ operand ∈ operands, outer.length + 1 + operand.expr.depth ≤ maxNesting) :
    Pending (read ++ opening :: head :: tokensOfAll operands)
      (⟨opening.span, head, (exprs operands).reverse⟩ :: outer)

inductive Reads : List Token → Progress → Prop
  | start : Reads [] start
  | opened {read outer opening} (outside : Pending read outer) (opens : opening.kind = .leftParen)
    (nested : outer.length < maxNesting) : Reads (read ++ [opening]) (opened opening.span outer)
  | within {read form outer} (pending : Pending read (form :: outer)) : Reads read (within form outer)
  | complete {derivation : Derivation} (valid : derivation.Valid)
    (shallow : derivation.expr.depth ≤ maxNesting) :
    Reads derivation.tokens (complete derivation.expr)

theorem closable_iff (opening : Span) (head : Token) (operands : List Derivation) :
    OpenForm.closable ⟨opening, head, (exprs operands).reverse⟩ = true ↔
      (Demanding head → operands ≠ []) := by
  have empty : exprs operands = [] ↔ operands = [] := by
    cases operands <;> simp [exprs]
  unfold OpenForm.closable Demanding
  cases kind : head.kind with
  | operator op => cases op <;> simp [empty]
  | _ => simp

theorem pending_length {read : List Token} {pending : List OpenForm} (outside : Pending read pending) :
    pending.length ≤ maxNesting := by
  cases outside with
  | none => exact Nat.zero_le _
  | form outside opens heads nested => exact nested

theorem pending_supply {read : List Token} {pending : List OpenForm} {derivation : Derivation}
    (outside : Pending read pending) (valid : derivation.Valid)
    (shallow : pending.length + derivation.expr.depth ≤ maxNesting) :
    Reads (read ++ derivation.tokens) (supply derivation.expr pending) := by
  cases outside with
  | none =>
    simp only [List.length_nil, Nat.zero_add] at shallow
    exact .complete valid shallow
  | @form read outer opening head operands outside opens heads nested others bounds =>
    have fits : ∀ operand ∈ operands ++ [derivation], operand.Valid := by
      intro operand member
      rcases List.mem_append.mp member with inside | last
      · exact others operand inside
      · rw [List.mem_singleton.mp last]
        exact valid
    have bounded : ∀ operand ∈ operands ++ [derivation],
        outer.length + 1 + operand.expr.depth ≤ maxNesting := by
      intro operand member
      rcases List.mem_append.mp member with inside | last
      · exact bounds operand inside
      · rw [List.mem_singleton.mp last]
        exact shallow
    have grown := Pending.form outside opens heads nested fits bounded
    have shown : exprs (operands ++ [derivation]) = exprs operands ++ [derivation.expr] := by
      simp [Derivation.exprs_eq_map]
    rw [shown, List.reverse_append, Derivation.tokensOfAll_append] at grown
    apply Reads.within
    simpa [tokensOfAll, OpenForm.push] using grown

theorem reads_operand {read : List Token} {pending : List OpenForm} {token : Token}
    {next : Progress} (outside : Pending read pending)
    (stepped : operand pending token = .ok next) : Reads (read ++ [token]) next := by
  have bound := pending_length outside
  cases kind : token.kind with
  | leftParen =>
    simp only [operand, kind] at stepped
    split at stepped
    · rename_i nested
      cases stepped
      exact .opened outside kind nested
    · cases stepped
  | number value =>
    simp only [operand, atom, kind] at stepped
    cases stepped
    exact pending_supply outside (.number kind) bound
  | boolean value =>
    simp only [operand, atom, kind] at stepped
    cases stepped
    exact pending_supply outside (.boolean kind) bound
  | name =>
    simp only [operand, atom, kind] at stepped
    cases stepped
    exact pending_supply outside (.name kind) bound
  | rightParen | operator op | endOfLine | invalid =>
    simp only [operand, atom, kind] at stepped
    cases stepped

theorem reads_closed {read : List Token} {form : OpenForm} {outer : List OpenForm} {closing : Token}
    (pending : Pending read (form :: outer)) (closes : closing.kind = .rightParen)
    (closable : form.closable = true) :
    Reads (read ++ [closing]) (supply (form.close closing.span) outer) := by
  cases pending with
  | @form read outer opening head operands outside opens heads nested valid shallow =>
    have demanded := (closable_iff opening.span head operands).mp closable
    have closed : (Derivation.form opening head operands closing).Valid :=
      .form opens heads demanded valid closes
    have inner : Expr.depthOfAll (exprs operands) ≤ maxNesting - (outer.length + 1) := by
      apply Expr.depthOfAll_le
      intro operand member
      rw [Derivation.exprs_eq_map] at member
      obtain ⟨derivation, present, rfl⟩ := List.mem_map.mp member
      have bound := shallow derivation present
      omega
    have bound : outer.length + (Derivation.form opening head operands closing).expr.depth ≤
        maxNesting := by
      simp only [Derivation.expr, Expr.depth]
      omega
    have supplied := pending_supply outside closed bound
    simpa [Derivation.tokens, Derivation.expr, OpenForm.close] using supplied

theorem reads_step {read : List Token} {whole : Span} {progress next : Progress} {token : Token}
    (reads : Reads read progress) (stepped : step whole progress token = .ok next) :
    Reads (read ++ [token]) next := by
  cases reads with
  | start => exact reads_operand .none stepped
  | @opened read outer opening outside opens nested =>
    have begun (heads : Heads token) :
        Reads (read ++ [opening] ++ [token]) (.within ⟨opening.span, token, []⟩ outer) := by
      have pending := Pending.form outside opens heads nested
        (fun operand (member : operand ∈ []) => nomatch member) fun operand member => nomatch member
      simpa [tokensOfAll, exprs] using Reads.within pending
    cases kind : token.kind with
    | operator op =>
      simp only [step, kind] at stepped
      cases stepped
      exact begun (.inl ⟨op, kind⟩)
    | name =>
      simp only [step, kind] at stepped
      cases stepped
      exact begun (.inr kind)
    | _ =>
      simp only [step, kind] at stepped
      cases stepped
  | @within read form outer pending =>
    cases kind : token.kind with
    | rightParen =>
      simp only [step, kind] at stepped
      split at stepped
      · rename_i closable
        cases stepped
        exact reads_closed pending kind closable
      · cases stepped
    | operator op =>
      simp only [step, kind] at stepped
      split at stepped <;> cases stepped
    | _ =>
      simp only [step, kind] at stepped
      exact reads_operand pending stepped
  | complete valid shallow => cases stepped

theorem reads_steps {read tokens : List Token} {whole : Span} {progress last : Progress}
    (reads : Reads read progress) (stepped : tokens.foldlM (step whole) progress = .ok last) :
    Reads (read ++ tokens) last := by
  induction tokens generalizing read progress with
  | nil =>
    cases stepped
    simpa using reads
  | cons token rest ih =>
    rw [List.foldlM_cons] at stepped
    cases first : step whole progress token with
    | error err =>
      rw [first] at stepped
      cases stepped
    | ok next =>
      rw [first] at stepped
      have later := ih (reads_step reads first) stepped
      simpa using later

def awaiting : List OpenForm → Progress
  | [] => start
  | form :: outer => within form outer

theorem step_awaiting (whole : Span) (pending : List OpenForm) {token : Token}
    (notClosing : token.kind ≠ .rightParen) (notOperator : ∀ op, token.kind ≠ .operator op) :
    step whole (awaiting pending) token = operand pending token := by
  cases pending with
  | nil => rfl
  | cons form outer => cases kind : token.kind <;> simp_all [awaiting, step]

theorem runs_atom (whole : Span) (pending : List OpenForm) {token : Token} {expr : Expr}
    (read : atom token = .ok expr) :
    [token].foldlM (step whole) (awaiting pending) = .ok (supply expr pending) := by
  have atomic : operand pending token = .ok (supply expr pending) := by
    unfold operand
    cases kind : token.kind with
    | leftParen =>
      simp only [atom, kind] at read
      cases read
    | _ =>
      simp only [read]
      rfl
  have stepped : step whole (awaiting pending) token = operand pending token := by
    apply step_awaiting <;> (intros; intro kind; simp only [atom, kind] at read; cases read)
  rw [List.foldlM_cons, stepped, atomic]
  rfl

/-- The operands of a form are read one after another if each is. -/
theorem runs_operands {whole : Span} {operands : List Derivation} {outer : List OpenForm}
    (runs : ∀ operand ∈ operands, ∀ form : OpenForm,
      operand.tokens.foldlM (step whole) (within form outer) =
        .ok (within (form.push operand.expr) outer)) (form : OpenForm) :
    (tokensOfAll operands).foldlM (step whole) (within form outer) =
      .ok (within { form with operands := (exprs operands).reverse ++ form.operands } outer) := by
  induction operands generalizing form with
  | nil => rfl
  | cons operand rest ih =>
    have first := runs operand (by simp) form
    have others := ih (fun operand member => runs operand (by simp [member])) (form.push operand.expr)
    simp only [tokensOfAll, List.foldlM_append, first, exprs, List.reverse_cons, List.append_assoc]
    exact others

theorem runs {derivation : Derivation} (valid : derivation.Valid) (whole : Span)
    (pending : List OpenForm) (shallow : pending.length + derivation.expr.depth ≤ maxNesting) :
    derivation.tokens.foldlM (step whole) (awaiting pending) =
      .ok (supply derivation.expr pending) := by
  induction valid generalizing pending with
  | number kind => exact runs_atom whole pending (by simp only [atom, kind, Derivation.expr])
  | boolean kind => exact runs_atom whole pending (by simp only [atom, kind, Derivation.expr])
  | name kind => exact runs_atom whole pending (by simp only [atom, kind, Derivation.expr])
  | @form opening head operands closing opens heads demanded valid closes ih =>
    simp only [Derivation.expr, Expr.depth] at shallow
    have entered : step whole (awaiting pending) opening = .ok (opened opening.span pending) := by
      rw [step_awaiting whole pending (by simp [opens]) (by simp [opens])]
      simp only [operand, opens]
      rw [if_pos (by omega)]
    have begun : step whole (opened opening.span pending) head =
        .ok (within ⟨opening.span, head, []⟩ pending) := by
      rcases heads with ⟨op, kind⟩ | kind
      · simp only [step, kind]
      · simp only [step, kind]
    have each : ∀ operand ∈ operands, ∀ form : OpenForm,
        operand.tokens.foldlM (step whole) (within form pending) =
          .ok (within (form.push operand.expr) pending) := by
      intro operand member form
      have inside : operand.expr ∈ exprs operands := by
        rw [Derivation.exprs_eq_map]
        exact List.mem_map_of_mem member
      have bound := Expr.depth_le_depthOfAll inside
      exact ih operand member (form :: pending) (by simp only [List.length_cons]; omega)
    have inner := runs_operands each ⟨opening.span, head, []⟩
    have closable := (closable_iff opening.span head operands).mpr demanded
    have ended : step whole (within ⟨opening.span, head, (exprs operands).reverse⟩ pending) closing =
        .ok (supply (OpenForm.close ⟨opening.span, head, (exprs operands).reverse⟩ closing.span)
          pending) := by
      simp only [step, closes]
      rw [if_pos closable]
    rw [List.append_nil] at inner
    have closed : OpenForm.close ⟨opening.span, head, (exprs operands).reverse⟩ closing.span =
        (Derivation.form opening head operands closing).expr := by
      simp [OpenForm.close, Derivation.expr]
    rw [closed] at ended
    simp only [Derivation.tokens, List.foldlM_cons, List.foldlM_append, List.foldlM_nil, bind,
      Except.bind, entered, begun, inner, ended]
    rfl

end Progress

theorem parse_sound {tokens : List Token} {expr : Expr} (parsed : parse tokens = .ok expr) :
    ∃ derivation : Derivation, derivation.Valid ∧ derivation.tokens = tokens ∧
      derivation.expr = expr ∧ derivation.expr.depth ≤ maxNesting := by
  unfold parse at parsed
  generalize Token.coveringSpan tokens = whole at parsed
  cases folded : tokens.foldlM (Progress.step whole) .start with
  | error err =>
    simp only [folded] at parsed
    cases parsed
  | ok last =>
    have reads := Progress.reads_steps .start folded
    simp only [folded] at parsed
    cases reads with
    | complete valid shallow =>
      cases parsed
      exact ⟨_, valid, rfl, rfl, shallow⟩
    | _ => cases parsed

theorem parse_complete {derivation : Derivation} (valid : derivation.Valid)
    (shallow : derivation.expr.depth ≤ maxNesting) :
    parse derivation.tokens = .ok derivation.expr := by
  have bound : ([] : List OpenForm).length + derivation.expr.depth ≤ maxNesting := by
    simpa using shallow
  have ran := Progress.runs valid (Token.coveringSpan derivation.tokens) [] bound
  unfold parse
  change (derivation.tokens.foldlM _ (Progress.awaiting []) >>= _) = _
  rw [ran]
  rfl

/-- The parser accepts the tokens of the valid derivations that are not nested too deep, with the
expressions derived; and no tokens have two valid derivations. -/
theorem parse_iff (tokens : List Token) :
    (∀ expr, parse tokens = .ok expr ↔ ∃ derivation : Derivation, derivation.Valid ∧
      derivation.tokens = tokens ∧ derivation.expr = expr ∧ derivation.expr.depth ≤ maxNesting) ∧
    ∀ first second : Derivation, first.Valid → second.Valid →
      first.tokens = tokens → second.tokens = tokens → first = second := by
  constructor
  · intro expr
    constructor
    · exact parse_sound
    · intro derived
      obtain ⟨derivation, valid, rfl, rfl, shallow⟩ := derived
      exact parse_complete valid shallow
  · intro first second firsts seconds told retold
    have same : first.tokens = second.tokens := by rw [told, retold]
    exact firsts.eq_of_tokens seconds same

end LineLisp
