import LineLisp.Proofs.Lexer
import LineLisp.Proofs.Number.Rounding
import LineLisp.Proofs.Parser

/-! Rendered expressions.
What a line is read as holds its tokens one by one and in their order, all but the
parentheses, and so does the text of it. A head stands there as a name. -/
namespace LineLisp

namespace Expr

mutual

def atoms : Expr → List Expr
  | number value span => [number value span]
  | boolean value span => [boolean value span]
  | name ident => [name ident]
  | form head operands _ => name head :: atomsOfAll operands

def atomsOfAll : List Expr → List Expr
  | [] => []
  | operand :: rest => operand.atoms ++ atomsOfAll rest

end

mutual

theorem items_eq : ∀ expr : Expr, expr.items = expr.atoms.flatMap items
  | number _ _ | boolean _ _ | name _ => by rw [atoms, List.flatMap_singleton]
  | form head operands span => by
    rw [items, atoms, List.flatMap_cons, itemsOfAll_eq operands]
    rfl

theorem itemsOfAll_eq : ∀ operands : List Expr,
    itemsOfAll operands = (atomsOfAll operands).flatMap items
  | [] => rfl
  | operand :: rest => by
    rw [itemsOfAll, atomsOfAll, List.flatMap_append, items_eq operand, itemsOfAll_eq rest]

end

end Expr

namespace Token

def isParenthesis (token : Token) : Bool :=
  token.kind = .leftParen || token.kind = .rightParen

def unparenthesized (tokens : List Token) : List Token :=
  tokens.filter fun token => !token.isParenthesis

def atom (token : Token) : Expr :=
  match token.kind with
  | .number value => .number value token.span
  | .boolean value => .boolean value token.span
  | _ => .name (Name.ofToken token)

def rendered (token : Token) : String :=
  match token.kind with
  | .number value => Number.fixedTwo value
  | _ => token.lexeme

theorem unparenthesized_append (front back : List Token) :
    unparenthesized (front ++ back) = unparenthesized front ++ unparenthesized back :=
  List.filter_append ..

theorem unparenthesized_open {token : Token} (opens : token.kind = .leftParen) (rest : List Token) :
    unparenthesized (token :: rest) = unparenthesized rest :=
  List.filter_cons_of_neg (by simp [isParenthesis, opens])

theorem unparenthesized_close {token : Token} (closes : token.kind = .rightParen) :
    unparenthesized [token] = [] :=
  List.filter_cons_of_neg (by simp [isParenthesis, closes])

theorem unparenthesized_cons {token : Token} (opens : token.kind ≠ .leftParen)
    (closes : token.kind ≠ .rightParen) (rest : List Token) :
    unparenthesized (token :: rest) = token :: unparenthesized rest :=
  List.filter_cons_of_pos (by simp [isParenthesis, opens, closes])

theorem items_atom {token : Token} (alone : Lexer.Alone token) :
    token.atom.items = [token.rendered] := by
  unfold atom rendered
  cases kind : token.kind with
  | boolean value =>
    -- A truth value is rendered by what it is, and that is how it is spelled.
    have spelled : token.kind.spelling? = some (if value then "true" else "false") := by
      rw [kind]
      cases value <;> rfl
    rw [alone.lexeme_eq spelled]
    cases value <;> rfl
  | _ => rfl

end Token

namespace Derivation

open Token (unparenthesized)

theorem atoms_operands {operands : List Derivation}
    (each : ∀ operand ∈ operands, operand.expr.atoms = (unparenthesized operand.tokens).map Token.atom) :
    Expr.atomsOfAll (exprs operands) = (unparenthesized (tokensOfAll operands)).map Token.atom := by
  induction operands with
  | nil => rfl
  | cons operand rest ih =>
    rw [exprs, tokensOfAll, Expr.atomsOfAll, Token.unparenthesized_append, List.map_append,
      each operand List.mem_cons_self,
      ih fun operand member => each operand (List.mem_cons_of_mem _ member)]

theorem Valid.atoms_eq {derivation : Derivation} (valid : derivation.Valid) :
    derivation.expr.atoms = (unparenthesized derivation.tokens).map Token.atom := by
  induction valid with
  | number kind | boolean kind | name kind =>
    rw [tokens, Token.unparenthesized_cons (by simp [kind]) (by simp [kind])]
    simp [expr, Expr.atoms, Token.atom, kind, unparenthesized]
  | @form opening head operands closing opens heads demanded valid closes ih =>
    have named : head.kind ≠ .leftParen ∧ head.kind ≠ .rightParen ∧
        head.atom = .name (Name.ofToken head) := by
      rcases heads with ⟨op, kind⟩ | kind <;> simp [kind, Token.atom]
    obtain ⟨notOpening, notClosing, atom⟩ := named
    rw [expr, Expr.atoms, tokens, Token.unparenthesized_open opens,
      Token.unparenthesized_cons notOpening notClosing, Token.unparenthesized_append,
      Token.unparenthesized_close closes, List.append_nil, List.map_cons, atom, atoms_operands ih]

end Derivation

/-- An expression holds the tokens of its line but for the parentheses, in their order, and is
rendered as their texts. -/
theorem render_tokens {line : String} {tokens : List Token} {expr : Expr}
    (read : tokenize line = .ok tokens) (parsed : parse tokens = .ok expr) :
    expr.render =
        String.join ((Token.unparenthesized tokens).map fun token => token.rendered ++ " ") ∧
      expr.atoms = (Token.unparenthesized tokens).map Token.atom ∧
      ∀ token ∈ tokens, ∀ value, token.kind = .number value →
        Number.Rounded value token.rendered := by
  obtain ⟨derivation, valid, rfl, rfl, -⟩ := parse_sound parsed
  have atoms := valid.atoms_eq
  refine ⟨?_, atoms, ?_⟩
  · have alone := (tokenize_iff.mp read).alone
    have items : derivation.expr.items =
        (Token.unparenthesized derivation.tokens).map Token.rendered := by
      rw [Expr.items_eq, atoms, List.flatMap_map, List.map_eq_flatMap]
      exact List.flatMap_congr fun token member =>
        Token.items_atom (alone token (List.mem_of_mem_filter member))
    rw [Expr.render, items, List.map_map]
    rfl
  · intro token member value kind
    unfold Token.rendered
    rw [kind]
    exact Number.fixedTwo_rounded value

/-- A half that goes down, and a name that is glued to a number. -/
theorem render_tokens_nested : ∃ tokens expr, tokenize "(if true 0.125(f 2x))" = .ok tokens ∧
    parse tokens = .ok expr ∧ expr.atoms = (Token.unparenthesized tokens).map Token.atom ∧
    String.join ((Token.unparenthesized tokens).map fun token => token.rendered ++ " ") =
      "if true 0.12 f 2.00 x " := by
  let expr : Expr := .form ⟨"if", .columns 1 3⟩ [.boolean true (.columns 4 8),
    .number (Number.ofNumeral "0.125".toList) (.columns 9 14),
    .form ⟨"f", .columns 15 16⟩ [.number (Number.ofNumeral "2".toList) (.columns 17 18),
      .name ⟨"x", .columns 18 19⟩] (.columns 14 20)] (.columns 0 21)
  obtain ⟨tokens, read, parsed⟩ : ∃ tokens, tokenize "(if true 0.125(f 2x))" = .ok tokens ∧
      parse tokens = .ok expr :=
    ⟨[⟨.leftParen, "(", .columns 0 1⟩, ⟨.operator .conditional, "if", .columns 1 3⟩,
      ⟨.boolean true, "true", .columns 4 8⟩,
      ⟨.number (Number.ofNumeral "0.125".toList), "0.125", .columns 9 14⟩,
      ⟨.leftParen, "(", .columns 14 15⟩, ⟨.name, "f", .columns 15 16⟩,
      ⟨.number (Number.ofNumeral "2".toList), "2", .columns 17 18⟩,
      ⟨.name, "x", .columns 18 19⟩, ⟨.rightParen, ")", .columns 19 20⟩,
      ⟨.rightParen, ")", .columns 20 21⟩], by decide +kernel, rfl⟩
  obtain ⟨rendered, atoms, -⟩ := render_tokens read parsed
  have text : expr.render = "if true 0.12 f 2.00 x " := by decide +kernel
  exact ⟨tokens, expr, read, parsed, atoms, rendered.symm.trans text⟩

end LineLisp
