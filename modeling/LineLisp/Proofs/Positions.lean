import LineLisp.Proofs.Grammar.Parts

/-! Positions that are evaluated.
The target of a definition and the body of a procedure's definition are not
evaluated with the form that they are operands of. -/
namespace LineLisp.Expr

def definientia : List Expr → List Expr
  | [name _, body] => [body]
  | _ => []

def evaluands : Expr → List Expr
  | form head operands _ =>
    if Operator.ofName? head.text = some .define then definientia operands else operands
  | _ => []

theorem evaluands_define {head ident : Name} {body : Expr} {span : Span}
    (defining : Operator.ofName? head.text = some .define) :
    (form head [.name ident, body] span).evaluands = [body] :=
  if_pos defining

theorem evaluands_form {head : Name} {operands : List Expr} {span : Span}
    (other : Operator.ofName? head.text ≠ some .define) :
    (form head operands span).evaluands = operands :=
  if_neg other

theorem mem_of_mem_definientia {operand : Expr} {operands : List Expr}
    (member : operand ∈ definientia operands) : operand ∈ operands := by
  unfold definientia at member
  split at member
  · exact .tail _ member
  · cases member

theorem mem_of_mem_evaluands {operand : Expr} {head : Name} {operands : List Expr} {span : Span}
    (member : operand ∈ (form head operands span).evaluands) : operand ∈ operands := by
  rw [evaluands] at member
  split at member
  · exact mem_of_mem_definientia member
  · exact member

theorem part_of_mem_evaluands {operand expr : Expr} (member : operand ∈ expr.evaluands) :
    operand.Part expr := by
  cases expr with
  | form head operands span => exact .operand (mem_of_mem_evaluands member) .self
  | number | boolean | name => cases member

end LineLisp.Expr
