import LineLisp.Proofs.Grammar
import Mathlib.Data.List.Infix

/-! Parts of expressions.
Every part of a derived expression is derived from a run of the tokens, so that
each head and each name goes back to a token of its own kind. -/
namespace LineLisp

inductive Expr.Part (part : Expr) : Expr → Prop
  | self : Part part part
  | operand {operand head operands span} (member : operand ∈ operands)
    (inside : Part part operand) : Part part (.form head operands span)

theorem Expr.Part.trans {part middle whole : Expr} (inner : part.Part middle)
    (outer : middle.Part whole) : part.Part whole := by
  induction outer with
  | self => exact inner
  | operand member _ ih => exact .operand member ih

theorem Expr.depth_lt_of_mem {operand : Expr} {head : Name} {operands : List Expr} {span : Span}
    (member : operand ∈ operands) : operand.depth < (form head operands span).depth :=
  Nat.lt_succ_of_le (depth_le_depthOfAll member)

theorem Expr.Part.depth_le {part whole : Expr} (inside : part.Part whole) :
    part.depth ≤ whole.depth := by
  induction inside with
  | self => exact Nat.le_refl _
  | operand member _ ih => exact Nat.le_trans ih (Nat.le_of_lt (depth_lt_of_mem member))

namespace Derivation

theorem tokens_infix_tokensOfAll {operand : Derivation} {operands : List Derivation}
    (member : operand ∈ operands) : operand.tokens <:+: tokensOfAll operands := by
  obtain ⟨front, back, rfl⟩ := List.append_of_mem member
  refine ⟨tokensOfAll front, tokensOfAll back, ?_⟩
  rw [tokensOfAll_append, tokensOfAll, List.append_assoc]

theorem Valid.of_part {derivation : Derivation} (valid : derivation.Valid) {part : Expr}
    (inside : part.Part derivation.expr) :
    ∃ sub : Derivation, sub.Valid ∧ sub.expr = part ∧ sub.tokens <:+: derivation.tokens := by
  induction valid with
  | number kind =>
    cases inside
    exact ⟨_, .number kind, rfl, List.infix_rfl⟩
  | boolean kind =>
    cases inside
    exact ⟨_, .boolean kind, rfl, List.infix_rfl⟩
  | name kind =>
    cases inside
    exact ⟨_, .name kind, rfl, List.infix_rfl⟩
  | @form opening head operands closing opens heads demanded valid closes ih =>
    cases inside with
    | self => exact ⟨_, .form opens heads demanded valid closes, rfl, List.infix_rfl⟩
    | operand member within =>
      rw [exprs_eq_map] at member
      obtain ⟨operand, present, rfl⟩ := List.mem_map.mp member
      obtain ⟨sub, fits, same, found⟩ := ih operand present within
      have others : tokensOfAll operands <:+:
          (Derivation.form opening head operands closing).tokens :=
        ⟨[opening, head], [closing], by simp [tokens]⟩
      exact ⟨sub, fits, same, (found.trans (tokens_infix_tokensOfAll present)).trans others⟩

theorem Valid.head_token {derivation : Derivation} (valid : derivation.Valid) {head : Name}
    {operands : List Expr} {span : Span}
    (inside : Expr.Part (.form head operands span) derivation.expr) :
    ∃ token ∈ derivation.tokens, Heads token ∧ Name.ofToken token = head := by
  obtain ⟨sub, fits, same, found⟩ := valid.of_part inside
  cases fits with
  | @form opening token others closing opens heads =>
    cases same
    exact ⟨token, found.subset (by simp [tokens]), heads, rfl⟩
  | _ => cases same

theorem Valid.name_token {derivation : Derivation} (valid : derivation.Valid) {ident : Name}
    (inside : Expr.Part (.name ident) derivation.expr) :
    ∃ token ∈ derivation.tokens, token.kind = .name ∧ Name.ofToken token = ident := by
  obtain ⟨sub, fits, same, found⟩ := valid.of_part inside
  cases fits with
  | name kind =>
    cases same
    exact ⟨_, found.subset (by simp [tokens]), kind, rfl⟩
  | _ => cases same

end Derivation

end LineLisp
