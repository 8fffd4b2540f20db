import LineLisp.Proofs.Grammar.Parts
import LineLisp.Proofs.Lexer.Segment
import LineLisp.Proofs.Parser

/-! Where expressions stand.
The span of an expression goes from the first of its tokens to the last. What a
line holds there is a line of its own, which gives the expression again. -/
namespace LineLisp

namespace Span

def Filled : Span → Prop
  | columns first past => first < past
  | unknown => False

def Before : Span → Span → Prop
  | columns _ past, columns first _ => past ≤ first
  | _, _ => False

def Inside : Span → Span → Prop
  | columns first past, columns start stop => start < first ∧ past < stop
  | _, _ => False

theorem till_self (span : Span) : span.till span = span := by
  cases span <;> rfl

variable {first last other : Span}

theorem Filled.known (filled : first.Filled) : first ≠ .unknown := by
  rintro rfl
  exact filled

theorem Before.of_till (filled : first.Filled) (before : last.Before other) :
    (first.till last).Before other := by
  cases first with
  | unknown => cases filled
  | columns =>
    cases last with
    | unknown => cases before
    | columns => cases other <;> exact before

theorem Before.till (before : other.Before first) (last : Span) : other.Before (first.till last) := by
  cases other with
  | unknown => cases before
  | columns =>
    cases first with
    | unknown => cases before
    | columns => cases last <;> exact before

theorem Inside.of_before (opens : first.Filled) (closes : last.Filled) (behind : first.Before other)
    (before : other.Before last) : other.Inside (first.till last) := by
  cases first with
  | unknown => cases opens
  | columns start begun =>
    cases last with
    | unknown => cases closes
    | columns ending stop =>
      cases other with
      | unknown => cases behind
      | columns left right =>
        simp only [Filled, Before] at opens closes behind before
        exact ⟨by omega, by omega⟩

end Span

namespace Token

theorem Cover.behind {line : String} {column : Nat} {tokens : List Token}
    (cover : Cover line column tokens) {token : Token} (member : token ∈ tokens) :
    ∃ first past, token.span = .columns first past ∧ column ≤ first ∧ first < past := by
  induction cover with
  | ended => cases member
  | @token column first past gap token tokens before blank stands others ih =>
    rcases List.mem_cons.mp member with rfl | later
    · exact ⟨first, past, stands.span, before.ordered, stands.filled⟩
    · obtain ⟨start, stop, span, further, filled⟩ := ih later
      have gone := before.ordered
      have taken := stands.filled
      exact ⟨start, stop, span, by omega, filled⟩

theorem Cover.filled {line : String} {column : Nat} {tokens : List Token}
    (cover : Cover line column tokens) : ∀ token ∈ tokens, token.span.Filled := by
  intro token member
  obtain ⟨first, past, span, -, filled⟩ := cover.behind member
  rw [span]
  exact filled

theorem Cover.ordered {line : String} {column : Nat} {tokens : List Token}
    (cover : Cover line column tokens) : tokens.Pairwise fun a b => a.span.Before b.span := by
  induction cover with
  | ended => exact .nil
  | @token column first past gap token tokens before blank stands others ih =>
    refine .cons (fun other member => ?_) ih
    obtain ⟨start, stop, span, further, -⟩ := others.behind member
    rw [stands.span, span]
    exact further

theorem before_coveringSpan {left right : List Token} (lefts : left ≠ []) (rights : right ≠ [])
    (filled : ∀ token ∈ left, token.span.Filled)
    (apart : ∀ a ∈ left, ∀ b ∈ right, a.span.Before b.span) :
    (coveringSpan left).Before (coveringSpan right) := by
  obtain ⟨token, tokens, rfl⟩ := List.exists_cons_of_ne_nil lefts
  obtain ⟨other, others, rfl⟩ := List.exists_cons_of_ne_nil rights
  rw [coveringSpan_cons, coveringSpan_cons]
  apply Span.Before.of_till (filled token List.mem_cons_self)
  exact (apart _ List.getLastD_mem_cons other List.mem_cons_self).till _

/-- Runs of tokens, one after another, cover spans one after another. -/
theorem pairwise_coveringSpan {groups : List (List Token)} (nonempty : ∀ group ∈ groups, group ≠ [])
    (filled : ∀ token ∈ groups.flatten, token.span.Filled)
    (ordered : groups.flatten.Pairwise fun a b => a.span.Before b.span) :
    (groups.map coveringSpan).Pairwise Span.Before := by
  rw [List.pairwise_map]
  have apart := (List.pairwise_flatten.mp ordered).2
  refine apart.imp_of_mem fun {left right} lefts rights before => ?_
  apply before_coveringSpan (nonempty left lefts) (nonempty right rights) _ before
  exact fun token member => filled token (List.mem_flatten_of_mem lefts member)

end Token

namespace Derivation

theorem tokensOfAll_eq_flatten (operands : List Derivation) :
    tokensOfAll operands = (operands.map tokens).flatten := by
  induction operands with
  | nil => rfl
  | cons operand rest ih => rw [tokensOfAll, ih, List.map_cons, List.flatten_cons]

theorem span_expr (derivation : Derivation) :
    derivation.expr.span = Token.coveringSpan derivation.tokens := by
  cases derivation with
  | number token | boolean token | name token => exact (Span.till_self token.span).symm
  | form opening head operands closing =>
    rw [tokens, Token.coveringSpan_cons, List.getLastD_cons, List.getLastD_concat]
    rfl

theorem Valid.filled {derivation : Derivation} (valid : derivation.Valid) :
    derivation.tokens ≠ [] := by
  obtain ⟨token, rest, begins, -⟩ := valid.begins
  rw [begins]
  exact List.cons_ne_nil token rest

end Derivation

structure Expr.Laid (head : Name) (operands : List Expr) (span : Span) : Prop where
  inside : ∀ inner ∈ head.span :: operands.map (·.span), inner.Inside span
  ordered : (head.span :: operands.map (·.span)).Pairwise Span.Before

theorem Derivation.Valid.laid {opening head closing : Token} {operands : List Derivation}
    (valid : (Derivation.form opening head operands closing).Valid)
    (filled : ∀ token ∈ (Derivation.form opening head operands closing).tokens, token.span.Filled)
    (ordered : (Derivation.form opening head operands closing).tokens.Pairwise
      fun a b => a.span.Before b.span) :
    Expr.Laid (Name.ofToken head) (exprs operands) (opening.span.till closing.span) := by
  cases valid with
  | form opens heads demanded valid closes =>
    have flat : (Derivation.form opening head operands closing).tokens =
        ([opening] :: [head] :: (operands.map tokens ++ [[closing]])).flatten := by
      simp [tokens, tokensOfAll_eq_flatten]
    rw [flat] at filled ordered
    have nonempty : ∀ group ∈ [opening] :: [head] :: (operands.map tokens ++ [[closing]]),
        group ≠ [] := by
      simp only [List.forall_mem_cons, List.forall_mem_append, List.forall_mem_map]
      exact ⟨List.cons_ne_nil _ _, List.cons_ne_nil _ _,
        fun operand member => (valid operand member).filled, List.cons_ne_nil _ _,
        List.forall_mem_nil _⟩
    have spans := Token.pairwise_coveringSpan nonempty filled ordered
    have covered : (operands.map tokens).map Token.coveringSpan =
        (exprs operands).map (·.span) := by
      rw [exprs_eq_map, List.map_map, List.map_map]
      exact List.map_congr_left fun operand _ => (span_expr operand).symm
    have alone (token : Token) : Token.coveringSpan [token] = token.span := Span.till_self token.span
    simp only [List.map_cons, List.map_append, covered, alone, List.map_nil] at spans
    rw [← List.cons_append] at spans
    obtain ⟨behind, rest⟩ := List.pairwise_cons.mp spans
    obtain ⟨between, -, before⟩ := List.pairwise_append.mp rest
    refine ⟨fun inner member => ?_, between⟩
    exact .of_before (filled opening (by simp)) (filled closing (by simp))
      (behind inner (List.mem_append_left _ member))
      (before inner member closing.span List.mem_cons_self)

structure Expr.Stands (line : String) (expr : Expr) (first past : Nat) : Prop where
  span : expr.span = .columns first past
  filled : first < past
  reread : ∃ text tokens root, Text.Slice line first past text ∧ tokenize text = .ok tokens ∧
    parse tokens = .ok root ∧ root.relocate (.shift first) = expr

theorem Derivation.Valid.stands {derivation : Derivation} (valid : derivation.Valid)
    (shallow : derivation.expr.depth ≤ maxNesting) {line : String} {tokens : List Token}
    (read : tokenize line = .ok tokens) (among : derivation.tokens <:+: tokens) :
    ∃ first past, derivation.expr.Stands line first past := by
  obtain ⟨front, back, rfl⟩ := among
  rw [List.append_assoc] at read
  obtain ⟨first, past, text, again, span, filled, slice, reread, same⟩ :=
    tokenize_segment read valid.filled
  rw [← span_expr] at span
  have parsed := parse_complete valid shallow
  rw [← same, parse_relocate (Span.steady_shift first)] at parsed
  refine ⟨first, past, span, filled, text, again, ?_⟩
  cases told : parse again with
  | error err =>
    rw [told] at parsed
    cases parsed
  | ok root =>
    rw [told] at parsed
    exact ⟨root, slice, reread, rfl, Except.ok.inj parsed⟩

/-- Every part of what a line is read as stands in the line at its span, which gives the part again
if it is read alone; and the parts of a form stand inside it in order. -/
theorem parse_part {line : String} {tokens : List Token} {expr : Expr}
    (read : tokenize line = .ok tokens) (parsed : parse tokens = .ok expr) :
    expr.span = Token.coveringSpan tokens ∧
    ∀ part : Expr, part.Part expr → (∃ first past, part.Stands line first past) ∧
      ∀ head operands span, part = .form head operands span → Expr.Laid head operands span := by
  obtain ⟨derivation, valid, rfl, rfl, shallow⟩ := parse_sound parsed
  refine ⟨derivation.span_expr, fun part inside => ?_⟩
  obtain ⟨sub, fits, rfl, among⟩ := valid.of_part inside
  refine ⟨fits.stands (Nat.le_trans inside.depth_le shallow) read among, ?_⟩
  intro head operands span same
  have cover := cover_of_tokenize read
  cases sub with
  | number | boolean | name => cases same
  | form opening token others closing =>
    cases same
    exact fits.laid (fun token member => cover.filled token (among.subset member))
      (cover.ordered.sublist among.sublist)

theorem parse_part_nested :
    let line := "\u3000(if(f 05)x)"
    let call := Expr.form ⟨"f", .columns 7 8⟩ [.number (Number.ofNumeral ['0']) (.columns 9 10),
      .number (Number.ofNumeral ['5']) (.columns 10 11)] (.columns 6 12)
    let whole := Expr.form ⟨"if", .columns 4 6⟩ [call, .name ⟨"x", .columns 12 13⟩] (.columns 3 14)
    (∃ tokens, tokenize line = .ok tokens ∧ parse tokens = .ok whole) ∧ call.Part whole ∧
      call.Stands line 6 12 := by
  intro line call whole
  have read : tokenize line = .ok [
      ⟨.leftParen, "(", .columns 3 4⟩, ⟨.operator .conditional, "if", .columns 4 6⟩,
      ⟨.leftParen, "(", .columns 6 7⟩, ⟨.name, "f", .columns 7 8⟩,
      ⟨.number (Number.ofNumeral ['0']), "0", .columns 9 10⟩,
      ⟨.number (Number.ofNumeral ['5']), "5", .columns 10 11⟩,
      ⟨.rightParen, ")", .columns 11 12⟩, ⟨.name, "x", .columns 12 13⟩,
      ⟨.rightParen, ")", .columns 13 14⟩] := by decide +kernel
  have inside : call.Part whole := .operand List.mem_cons_self .self
  obtain ⟨⟨first, past, stands⟩, -⟩ := (parse_part read rfl).2 call inside
  cases stands.span
  exact ⟨⟨_, read, rfl⟩, inside, stands⟩

end LineLisp
