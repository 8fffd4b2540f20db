import LineLisp.Expr

/-! The grammar of expressions.
A derivation names the token of every terminal, so that it gives both the tokens
it derives and the expression they stand for. No tokens have two valid
derivations. -/
namespace LineLisp

namespace Expr

mutual

def depth : Expr → Nat
  | form _ operands _ => depthOfAll operands + 1
  | _ => 0

def depthOfAll : List Expr → Nat
  | [] => 0
  | operand :: rest => max operand.depth (depthOfAll rest)

end

theorem depth_le_depthOfAll {operand : Expr} {operands : List Expr} (member : operand ∈ operands) :
    operand.depth ≤ depthOfAll operands := by
  induction operands with
  | nil => simp at member
  | cons first rest ih =>
    simp only [depthOfAll]
    rcases List.mem_cons.mp member with rfl | inside
    · omega
    · have bound := ih inside
      omega

theorem depthOfAll_le {bound : Nat} {operands : List Expr}
    (bounded : ∀ operand ∈ operands, operand.depth ≤ bound) : depthOfAll operands ≤ bound := by
  induction operands with
  | nil => simp [depthOfAll]
  | cons first rest ih =>
    have head := bounded first (by simp)
    have tail := ih fun operand member => bounded operand (by simp [member])
    simp only [depthOfAll]
    omega

end Expr

inductive Derivation where
  | number (token : Token) (value : Float)
  | boolean (token : Token) (value : Bool)
  | name (token : Token)
  | form (opening head : Token) (operands : List Derivation) (closing : Token)

namespace Derivation

mutual

def tokens : Derivation → List Token
  | number token _ => [token]
  | boolean token _ => [token]
  | name token => [token]
  | form opening head operands closing => opening :: head :: (tokensOfAll operands ++ [closing])

def tokensOfAll : List Derivation → List Token
  | [] => []
  | operand :: rest => operand.tokens ++ tokensOfAll rest

end

mutual

def expr : Derivation → Expr
  | number token value => .number value token.span
  | boolean token value => .boolean value token.span
  | name token => .name (Name.ofToken token)
  | form opening head operands closing =>
    .form (Name.ofToken head) (exprs operands) (opening.span.till closing.span)

def exprs : List Derivation → List Expr
  | [] => []
  | operand :: rest => operand.expr :: exprs rest

end

theorem tokensOfAll_append (front back : List Derivation) :
    tokensOfAll (front ++ back) = tokensOfAll front ++ tokensOfAll back := by
  induction front with
  | nil => rfl
  | cons operand rest ih => simp only [List.cons_append, tokensOfAll, ih, List.append_assoc]

theorem exprs_eq_map (operands : List Derivation) : exprs operands = operands.map expr := by
  induction operands with
  | nil => rfl
  | cons operand rest ih => simp only [exprs, ih, List.map_cons]

def Heads (head : Token) : Prop :=
  (∃ op, head.kind = .operator op) ∨ head.kind = .name

def Demanding (head : Token) : Prop :=
  head.kind = .operator .minus ∨ head.kind = .operator .divide

inductive Valid : Derivation → Prop
  | number {token value} (kind : token.kind = .number value) : Valid (.number token value)
  | boolean {token value} (kind : token.kind = .boolean value) : Valid (.boolean token value)
  | name {token} (kind : token.kind = .name) : Valid (.name token)
  | form {opening head operands closing} (opens : opening.kind = .leftParen) (heads : Heads head)
    (demanded : Demanding head → operands ≠ []) (valid : ∀ operand ∈ operands, Valid operand)
    (closes : closing.kind = .rightParen) : Valid (.form opening head operands closing)

/-- A valid derivation begins with a token that no form is closed by. -/
theorem Valid.begins {derivation : Derivation} (valid : derivation.Valid) :
    ∃ token rest, derivation.tokens = token :: rest ∧ token.kind ≠ .rightParen := by
  cases valid with
  | number kind => exact ⟨_, [], rfl, by simp [kind]⟩
  | boolean kind => exact ⟨_, [], rfl, by simp [kind]⟩
  | name kind => exact ⟨_, [], rfl, by simp [kind]⟩
  | form opens => exact ⟨_, _, rfl, by simp [opens]⟩

/-- What the operands of a form are is told by the tokens up to where it is closed. -/
theorem operands_unique {left right : List Derivation} {closing ending : Token}
    {rest other : List Token}
    (unique : ∀ operand ∈ left, ∀ peer : Derivation, peer.Valid → ∀ rest other,
      operand.tokens ++ rest = peer.tokens ++ other → operand = peer ∧ rest = other)
    (lefts : ∀ operand ∈ left, operand.Valid) (rights : ∀ operand ∈ right, operand.Valid)
    (closes : closing.kind = .rightParen) (ends : ending.kind = .rightParen)
    (same : tokensOfAll left ++ closing :: rest = tokensOfAll right ++ ending :: other) :
    left = right ∧ closing = ending ∧ rest = other := by
  induction left generalizing right with
  | nil =>
    cases right with
    | nil => simpa [tokensOfAll] using same
    | cons peer peers =>
      obtain ⟨token, more, begins, unlike⟩ := (rights peer (by simp)).begins
      simp only [tokensOfAll, begins, List.nil_append, List.cons_append, List.cons.injEq] at same
      obtain ⟨rfl, -⟩ := same
      exact absurd closes unlike
  | cons operand operands ih =>
    cases right with
    | nil =>
      obtain ⟨token, more, begins, unlike⟩ := (lefts operand (by simp)).begins
      simp only [tokensOfAll, begins, List.nil_append, List.cons_append, List.cons.injEq] at same
      obtain ⟨rfl, -⟩ := same
      exact absurd ends unlike
    | cons peer peers =>
      simp only [tokensOfAll, List.append_assoc] at same
      obtain ⟨rfl, later⟩ := unique operand (by simp) peer (rights peer (by simp)) _ _ same
      obtain ⟨rfl, places⟩ := ih (fun operand member => unique operand (by simp [member]))
        (fun operand member => lefts operand (by simp [member]))
        (fun operand member => rights operand (by simp [member])) later
      exact ⟨rfl, places⟩

theorem Valid.unique {left right : Derivation} (lefts : left.Valid) (rights : right.Valid)
    (rest other : List Token) (same : left.tokens ++ rest = right.tokens ++ other) :
    left = right ∧ rest = other := by
  induction lefts generalizing right rest other with
  | number kind =>
    cases rights <;> simp_all [tokens]
  | boolean kind =>
    cases rights <;> simp_all [tokens]
  | name kind =>
    cases rights <;> simp_all [tokens]
  | @form opening head operands closing opens heads demanded valid closes ih =>
    cases rights with
    | number kind => simp_all [tokens]
    | boolean kind => simp_all [tokens]
    | name kind => simp_all [tokens]
    | form starts leads needed fits ends =>
      simp only [tokens, List.cons_append, List.append_assoc, List.nil_append, List.cons.injEq] at same
      obtain ⟨rfl, rfl, inner⟩ := same
      obtain ⟨rfl, rfl, rfl⟩ := operands_unique (fun operand member peer fit rest other =>
        ih operand member fit rest other) valid fits closes ends inner
      exact ⟨rfl, rfl⟩

theorem Valid.eq_of_tokens {left right : Derivation} (lefts : left.Valid) (rights : right.Valid)
    (same : left.tokens = right.tokens) : left = right := by
  have padded : left.tokens ++ [] = right.tokens ++ [] := by rw [same]
  exact (lefts.unique rights [] [] padded).1

end Derivation

end LineLisp
