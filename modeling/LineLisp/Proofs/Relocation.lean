import LineLisp.Session

/-! Source at other places.
A relocation moves every place that something was read from and leaves the rest
as it is, also inside the procedures that an environment holds. -/
namespace LineLisp

variable (move : Span → Span)

def Token.relocate (token : Token) : Token :=
  { token with span := move token.span }

def Name.relocate (name : Name) : Name :=
  { name with span := move name.span }

namespace Expr

mutual

def relocate : Expr → Expr
  | number value span => .number value (move span)
  | boolean value span => .boolean value (move span)
  | name ident => .name (ident.relocate move)
  | form head operands span => .form (head.relocate move) (relocateAll operands) (move span)

def relocateAll : List Expr → List Expr
  | [] => []
  | operand :: rest => operand.relocate :: relocateAll rest

end

theorem relocateAll_eq_map (operands : List Expr) :
    relocateAll move operands = operands.map (·.relocate move) := by
  induction operands with
  | nil => rfl
  | cons operand rest ih => rw [relocateAll, ih, List.map_cons]

@[simp] theorem relocate_form (head : Name) (operands : List Expr) (span : Span) :
    (form head operands span).relocate move =
      .form (head.relocate move) (operands.map (·.relocate move)) (move span) := by
  rw [relocate, relocateAll_eq_map]

@[simp] theorem span_relocate (expr : Expr) : (expr.relocate move).span = move expr.span := by
  cases expr <;> rfl

theorem asName?_relocate (expr : Expr) :
    (expr.relocate move).asName? = expr.asName?.map (·.relocate move) := by
  cases expr <;> rfl

mutual

@[simp] theorem relocate_id : ∀ expr : Expr, expr.relocate id = expr
  | number _ _ | boolean _ _ | name _ => rfl
  | form head operands span => by
    rw [relocate, relocateAll_id operands]
    rfl

theorem relocateAll_id : ∀ operands : List Expr, relocateAll id operands = operands
  | [] => rfl
  | operand :: rest => by rw [relocateAll, relocate_id operand, relocateAll_id rest]

end

end Expr

def LexError.relocate : LexError → LexError
  | invalidToken remainder span => .invalidToken remainder (move span)
  | gluedNumber lexeme span => .gluedNumber lexeme (move span)

def ParseError.relocate : ParseError → ParseError
  | emptyExpression => .emptyExpression
  | unexpectedToken found span => .unexpectedToken found (move span)
  | invalidHead found span => .invalidHead found (move span)
  | doubledOperator first second span => .doubledOperator first second (move span)
  | missingOperand operator span => .missingOperand operator (move span)
  | unterminated span => .unterminated (move span)
  | nestingTooDeep limit span => .nestingTooDeep limit (move span)
  | trailingTokens found span => .trailingTokens found (move span)

namespace EvalError

def relocate : EvalError → EvalError
  | undefined name span => .undefined name (move span)
  | typeMismatch operator expected span => .typeMismatch operator expected (move span)
  | arityMismatch name expected found span => .arityMismatch name expected found (move span)
  | divideByZero span => .divideByZero (move span)
  | notAProcedure name span => .notAProcedure name (move span)
  | malformedDefine fault span => .malformedDefine fault (move span)
  | malformedConditional found span => .malformedConditional found (move span)
  | stackExhausted depth => .stackExhausted depth
  | nestingTooDeep depth => .nestingTooDeep depth

@[simp] theorem isFatal_relocate (err : EvalError) :
    (err.relocate move).isFatal = err.isFatal := by
  cases err <;> rfl

@[simp] theorem relocate_relocate (other : Span → Span) (err : EvalError) :
    (err.relocate other).relocate move = err.relocate fun span => move (other span) := by
  cases err <;> rfl

end EvalError

def Error.relocate : Error → Error
  | lex err => .lex (err.relocate move)
  | parse err => .parse (err.relocate move)
  | eval err => .eval (err.relocate move)

def Procedure.relocate (procedure : Procedure) : Procedure :=
  { procedure with body := procedure.body.relocate move }

theorem Procedure.relocate_id (procedure : Procedure) : procedure.relocate id = procedure := by
  rw [relocate, Expr.relocate_id]

namespace Binding

def relocate : Binding → Binding
  | procedure meant => .procedure (meant.relocate move)
  | number value => .number value
  | boolean value => .boolean value
  | void => .void

end Binding

theorem Binding.relocate_id (binding : Binding) : binding.relocate id = binding := by
  cases binding with
  | procedure meant => exact congrArg Binding.procedure meant.relocate_id
  | number | boolean | void => rfl

namespace Entries

def relocate (entries : Entries) : Entries :=
  entries.map fun entry => (entry.1, entry.2.relocate move)

theorem lookup_relocate (entries : Entries) (name : String) :
    (entries.relocate move).lookup name = (entries.lookup name).map (·.relocate move) := by
  induction entries with
  | nil => rfl
  | cons entry rest ih =>
    obtain ⟨other, binding⟩ := entry
    change List.lookup name ((other, binding.relocate move) :: relocate move rest) = _
    rw [lookup_cons, lookup_cons, ih]
    split <;> rfl

theorem insert_relocate (entries : Entries) (name : String) (binding : Binding) :
    (entries.insert name binding).relocate move =
      insert name (binding.relocate move) (entries.relocate move) := by
  induction entries with
  | nil => rfl
  | cons entry rest ih =>
    obtain ⟨other, bound⟩ := entry
    change _ = insert name (binding.relocate move)
      ((other, bound.relocate move) :: relocate move rest)
    rw [insert, insert, ← ih]
    split
    · rfl
    · split <;> rfl

theorem Sorted.relocate {entries : Entries} (sorted : entries.Sorted) :
    (entries.relocate move).Sorted :=
  List.pairwise_map.mpr sorted

theorem relocate_id (entries : Entries) : entries.relocate id = entries := by
  simp [relocate, Binding.relocate_id]

end Entries

theorem Frame.ofArguments_relocate (parameters : List String) (arguments : List Binding) :
    Frame.ofArguments parameters (arguments.map (·.relocate move)) =
      Entries.relocate move (Frame.ofArguments parameters arguments) := by
  unfold Frame.ofArguments Entries.relocate
  rw [List.zip_map_right, List.map_reverse]
  rfl

namespace Globals

def relocate (globals : Globals) : Globals :=
  ⟨globals.entries.relocate move, globals.sorted.relocate move⟩

theorem get?_relocate (globals : Globals) (name : String) :
    (globals.relocate move).get? name = (globals.get? name).map (·.relocate move) :=
  globals.entries.lookup_relocate move name

theorem insert_relocate (globals : Globals) (name : String) (binding : Binding) :
    (globals.insert name binding).relocate move =
      (globals.relocate move).insert name (binding.relocate move) := by
  simp only [relocate, insert, Entries.insert_relocate]

end Globals

def CallStack.relocate (stack : CallStack) : CallStack :=
  ⟨stack.frames.map (Entries.relocate move), stack.depth, by simp [stack.counted]⟩

theorem CallStack.pop_relocate (stack : CallStack) :
    stack.pop.relocate move = (stack.relocate move).pop :=
  eq_of_frames (List.map_tail ..)

namespace Environment

def relocate (env : Environment) : Environment :=
  { env with globals := env.globals.relocate move, stack := env.stack.relocate move }

theorem top_relocate (env : Environment) :
    (env.relocate move).top = Entries.relocate move env.top := by
  change (env.stack.frames.map (Entries.relocate move)).headD [] = _
  unfold top
  cases env.stack.frames <;> rfl

theorem lookup_relocate (env : Environment) (name : String) :
    (env.relocate move).lookup name = (env.lookup name).map (·.relocate move) := by
  change ((env.relocate move).top.lookup name).or ((env.globals.relocate move).get? name) = _
  rw [top_relocate, Entries.lookup_relocate, Globals.get?_relocate, ← Option.map_or]
  rfl

theorem define_relocate (env : Environment) (name : String) (binding : Binding) :
    (env.define name binding).relocate move =
      (env.relocate move).define name (binding.relocate move) := by
  simp only [define, relocate, Globals.insert_relocate]

theorem pop_relocate (env : Environment) : env.pop.relocate move = (env.relocate move).pop := by
  simp only [pop, relocate, CallStack.pop_relocate]

end Environment

end LineLisp
