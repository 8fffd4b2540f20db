import LineLisp.Proofs.Lexer.Spelling

/-! Expressions that lines stand for.
The lexer settles what a name can be and the parser what a form can be. Every
part of an expression that is read has to thank both for its shape, so that it
may be kept as the body of a procedure. -/
namespace LineLisp

structure Nameable (text : String) : Prop where
  identifier : Identifier text.toList
  free : text ∉ keywords

namespace Expr

structure WellFormed (expr : Expr) : Prop where
  names : ∀ {ident}, Part (.name ident) expr → Nameable ident.text
  heads : ∀ {head operands span}, Part (.form head operands span) expr →
    (∃ op : Operator, head.text = op.symbol) ∨ Nameable head.text
  filled : ∀ {head operands span}, Part (.form head operands span) expr →
    head.text = "-" ∨ head.text = "/" → operands ≠ []

theorem WellFormed.part {part whole : Expr} (sound : whole.WellFormed) (inside : part.Part whole) :
    part.WellFormed where
  names inner := sound.names (inner.trans inside)
  heads inner := sound.heads (inner.trans inside)
  filled inner := sound.filled (inner.trans inside)

theorem WellFormed.callee {head : Name} {operands : List Expr} {span : Span} {whole : Expr}
    (sound : whole.WellFormed) (inside : Part (.form head operands span) whole)
    (foreign : Operator.ofName? head.text = none) : Nameable head.text := by
  rcases sound.heads inside with ⟨op, spelled⟩ | nameable
  · rw [spelled, Operator.ofName?_symbol] at foreign
    cases foreign
  · exact nameable

/-- A level of nesting is lost to the definition around a body. -/
theorem depth_body {head : Name} {target body : Expr} {span : Span}
    (within : (form head [target, body] span).depth ≤ maxNesting) : body.depth ≤ maxNesting - 1 := by
  have lost : body.depth < (form head [target, body] span).depth := depth_lt_of_mem (by simp)
  exact Nat.le_sub_one_of_lt (Nat.lt_of_lt_of_le lost within)

end Expr

theorem Lexer.Alone.nameable {token : Token} (alone : Alone token) (named : token.kind = .name) :
    Nameable token.lexeme := by
  obtain ⟨identifier, free⟩ := alone.told.name.mp named
  exact ⟨identifier, free⟩

theorem Derivation.Valid.wellFormed {derivation : Derivation} (valid : derivation.Valid)
    (alone : ∀ token ∈ derivation.tokens, Lexer.Alone token) : derivation.expr.WellFormed where
  names inside := by
    obtain ⟨token, member, named, rfl⟩ := valid.name_token inside
    exact (alone token member).nameable named
  heads inside := by
    obtain ⟨token, member, ⟨op, kind⟩ | named, rfl⟩ := valid.head_token inside
    · have builtin := ((alone token member).operator_iff op).mp kind
      exact .inl ⟨op, (Operator.symbol_of_ofName? builtin).symm⟩
    · exact .inr ((alone token member).nameable named)
  filled inside spelled := by
    obtain ⟨sub, fits, same, found⟩ := valid.of_part inside
    cases fits with
    | @form opening token operands closing opens heads demanded =>
      cases same
      have single := alone token (found.subset (by simp [tokens]))
      have demanding : Demanding token :=
        spelled.imp (fun minus => (single.operator_iff .minus).mpr (congrArg _ minus))
          fun divide => (single.operator_iff .divide).mpr (congrArg _ divide)
      rw [exprs_eq_map]
      simpa using demanded demanding
    | _ => cases same

theorem parse_wellFormed {line : String} {tokens : List Token} {expr : Expr}
    (read : tokenize line = .ok tokens) (parsed : parse tokens = .ok expr) :
    expr.WellFormed ∧ expr.depth ≤ maxNesting := by
  obtain ⟨derivation, valid, rfl, rfl, shallow⟩ := parse_sound parsed
  exact ⟨valid.wellFormed (tokenize_iff.mp read).alone, shallow⟩

end LineLisp
