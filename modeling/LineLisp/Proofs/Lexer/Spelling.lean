import LineLisp.Eval
import LineLisp.Proofs.Grammar.Parts
import LineLisp.Proofs.Lexer.Spacing
import LineLisp.Proofs.Parser

/-! What a token is, is told by its spelling.
In a line that is read to its end, the operators are the tokens spelled like one
and the names those spelled like an identifier and not like a keyword. The
evaluator, which goes by spelling, and the parser agree on what is built in. -/
namespace LineLisp

namespace Token

structure Told (token : Token) : Prop where
  operator : token.kind.isOperator = true ↔ (Operator.ofName? token.lexeme).isSome = true
  name : token.kind = .name ↔ Identifier token.lexeme.toList ∧ token.lexeme ∉ keywords

structure Governs (token : Token) (head : Name) (operands : List Expr) (span : Span) : Prop where
  heads : Derivation.Heads token
  builtin : ∀ op, Operator.ofName? head.text = some op ↔ token.kind = .operator op
  operated : ∀ op, token.kind = .operator op → ∀ self,
    Rules.value self (.form head operands span) = Rules.operate self op operands span
  applied : token.kind = .name → ∀ self,
    Rules.value self (.form head operands span) = Rules.apply self head operands span

end Token

namespace Lexer

variable {token peer : Token}

theorem Alone.kind_eq (alone : Alone token) (other : Alone peer) (same : token.lexeme = peer.lexeme) :
    token.kind = peer.kind := by
  obtain ⟨pattern, whole, kind⟩ := alone
  obtain ⟨rival, all, also⟩ := other
  rw [same, all] at whole
  cases whole
  rw [kind, also, same]

theorem Alone.kind_of_spelling (alone : Alone token) {kind : TokenKind}
    (spelled : kind.spelling? = some token.lexeme) : token.kind = kind := by
  obtain ⟨pattern, whole, own⟩ := alone
  obtain ⟨rival, all, other⟩ := Pattern.first?_spelling spelled
  rw [all] at whole
  cases whole
  rw [own, other]

theorem Alone.operator_iff (alone : Alone token) (op : Operator) :
    token.kind = .operator op ↔ Operator.ofName? token.lexeme = some op := by
  constructor
  · intro kind
    have symbol : token.lexeme = op.symbol := alone.lexeme_eq (by rw [kind]; rfl)
    rw [symbol, Operator.ofName?_symbol]
  · intro named
    have symbol := Operator.symbol_of_ofName? named
    exact alone.kind_of_spelling (congrArg some symbol)

theorem Alone.not_keyword (alone : Alone token) (named : token.kind = .name) :
    token.lexeme ∉ keywords := by
  intro keyword
  obtain ⟨pattern, whole, kind⟩ := alone
  obtain ⟨rival, all, unnamed⟩ := Pattern.first?_keyword keyword
  rw [all] at whole
  cases whole
  exact unnamed (kind.symm.trans named)

theorem first?_identifier {name : String} (identifier : Identifier name.toList)
    (free : name ∉ keywords) :
    Pattern.first? name.toList = some (.identifier, name.toList.length) := by
  have accepts : Pattern.identifier.Accepts name.toList [] := identifier
  refine Pattern.first?_whole Pattern.identifier_mem_table accepts ?_
  intro _ rival ranked keyed taken
  have keyword := Pattern.mem_keywords_of_accepts ranked keyed taken
  rw [String.ofList_toList] at keyword
  exact free keyword

theorem Alone.name_of_identifier (alone : Alone token) (identifier : Identifier token.lexeme.toList)
    (free : token.lexeme ∉ keywords) : token.kind = .name := by
  obtain ⟨pattern, whole, kind⟩ := alone
  rw [first?_identifier identifier free] at whole
  cases whole
  exact kind

theorem Alone.told (alone : Alone token) : token.Told where
  operator := by
    constructor
    · intro operator
      cases kind : token.kind with
      | operator op => rw [(alone.operator_iff op).mp kind, Option.isSome_some]
      | _ => simp [kind, TokenKind.isOperator] at operator
    · intro builtin
      obtain ⟨op, named⟩ := Option.isSome_iff_exists.mp builtin
      rw [(alone.operator_iff op).mpr named]
      rfl
  name := by
    constructor
    · intro named
      have spells := alone.spells
      rw [named] at spells
      exact ⟨spells, alone.not_keyword named⟩
    · rintro ⟨identifier, free⟩
      exact alone.name_of_identifier identifier free

theorem Alone.same (alone : Alone token) (other : Alone peer) (same : token.lexeme = peer.lexeme) :
    token.same peer = true := by
  rw [Token.same, ← alone.kind_eq other same, alone.spells.same_self, same, beq_self_eq_true]
  rfl

theorem Alone.not_builtin (alone : Alone token) (named : token.kind = .name) :
    Operator.ofName? token.lexeme = none := by
  rw [Option.eq_none_iff_forall_ne_some]
  intro op builtin
  have operator := (alone.operator_iff op).mpr builtin
  rw [named] at operator
  cases operator

theorem Alone.governs (alone : Alone token) (heads : Derivation.Heads token)
    (operands : List Expr) (span : Span) : token.Governs (Name.ofToken token) operands span where
  heads := heads
  builtin op := (alone.operator_iff op).symm
  operated := by
    intro op operator self
    have builtin : Operator.ofName? (Name.ofToken token).text = some op :=
      (alone.operator_iff op).mp operator
    rw [Rules.value, builtin]
  applied := by
    intro named self
    have foreign : Operator.ofName? (Name.ofToken token).text = none := alone.not_builtin named
    rw [Rules.value, foreign]

end Lexer

open Lexer

/-- The lexer and the evaluator agree on what is built in. -/
theorem tokenize_spelling {line : String} {tokens : List Token} (read : tokenize line = .ok tokens) :
    (∀ token ∈ tokens, token.Told) ∧
    (∀ other others, tokenize other = .ok others → ∀ token ∈ tokens, ∀ peer ∈ others,
      token.lexeme = peer.lexeme → token.kind = peer.kind ∧ token.same peer = true) ∧
    ∀ expr, parse tokens = .ok expr →
      (∀ head operands span, Expr.Part (.form head operands span) expr →
        (∃ token ∈ tokens, Name.ofToken token = head) ∧
          ∀ token ∈ tokens, Name.ofToken token = head → token.Governs head operands span) ∧
      ∀ ident, Expr.Part (.name ident) expr → Operator.ofName? ident.text = none := by
  have alone := (tokenize_iff.mp read).alone
  refine ⟨fun token member => (alone token member).told, ?_, ?_⟩
  · intro other others again token member peer among same
    have apart := (tokenize_iff.mp again).alone peer among
    exact ⟨(alone token member).kind_eq apart same, (alone token member).same apart same⟩
  · intro expr parsed
    obtain ⟨derivation, valid, rfl, rfl, -⟩ := parse_sound parsed
    constructor
    · intro head operands span inside
      obtain ⟨own, among, heads, rfl⟩ := valid.head_token inside
      refine ⟨⟨own, among, rfl⟩, ?_⟩
      intro token member named
      have spelled : token.lexeme = own.lexeme := congrArg Name.text named
      have alike := (alone token member).kind_eq (alone own among) spelled
      rw [Derivation.Heads, ← alike] at heads
      exact named ▸ (alone token member).governs heads operands span
    · intro ident inside
      obtain ⟨token, member, named, rfl⟩ := valid.name_token inside
      exact (alone token member).not_builtin named

theorem tokenize_spelling_nested :
    let tokens : List Token := [
      ⟨.leftParen, "(", .columns 0 1⟩, ⟨.operator .conditional, "if", .columns 1 3⟩,
      ⟨.leftParen, "(", .columns 4 5⟩, ⟨.name, "f", .columns 5 6⟩, ⟨.name, "x", .columns 7 8⟩,
      ⟨.rightParen, ")", .columns 8 9⟩, ⟨.number (Number.ofNumeral ['0']), "0", .columns 10 11⟩,
      ⟨.number (Number.ofNumeral ['5']), "5", .columns 11 12⟩, ⟨.rightParen, ")", .columns 12 13⟩]
    let others : List Token := [⟨.operator .conditional, "if", .columns 3 5⟩]
    tokenize "(if (f x) 05)" = .ok tokens ∧ tokenize "\u3000if" = .ok others ∧
    (∃ expr, parse tokens = .ok expr) ∧ (∀ token ∈ tokens, token.Told) ∧
    (∃ token ∈ tokens, ∃ peer ∈ others, token.kind = peer.kind ∧ token.same peer = true) ∧
    ∃ token ∈ tokens, token.Governs ⟨"f", .columns 5 6⟩ [.name ⟨"x", .columns 7 8⟩] (.columns 4 9) := by
  intro tokens others
  have read : tokenize "(if (f x) 05)" = .ok tokens := by decide +kernel
  have again : tokenize "\u3000if" = .ok others := by decide +kernel
  obtain ⟨told, alike, parsed⟩ := tokenize_spelling read
  have among : ⟨.operator .conditional, "if", .columns 1 3⟩ ∈ tokens := by simp [tokens]
  have same := alike _ _ again _ among _ (.head _) rfl
  have calls := (parsed _ rfl).1 ⟨"f", .columns 5 6⟩ [.name ⟨"x", .columns 7 8⟩] (.columns 4 9)
    (.operand (.head _) .self)
  obtain ⟨token, member, named⟩ := calls.1
  exact ⟨read, again, ⟨_, rfl⟩, told, ⟨_, among, _, .head _, same⟩, token, member,
    calls.2 token member named⟩

/-- A keyword before a letter beyond ASCII is read as a name, but nothing reads that letter. -/
example : (Lexer.ofLine "ifé").next.1 = .ok ⟨.name, "if", .columns 0 2⟩ ∧
    tokenize "ifé" = .error (.invalidToken "é" (.columns 2 4)) := by
  decide +kernel

end LineLisp
