import LineLisp.Proofs.Frame
import LineLisp.Proofs.Globals
import LineLisp.Proofs.Simulation.Guided

/-! Names in scope.
The parameters of the innermost call and the globals are in scope where an
expression is evaluated, and the globals alone where it calls something. The body
of a procedure has the procedure's own parameters in scope, and not those of the
procedure that defines it, if there is one. What is scoped in this way finds a
binding for every name that it comes across. -/
namespace LineLisp

/-- Of the names that evaluation of the expression comes across, those that it refers to are
parameters or globals and those that it calls are globals. The same holds of the bodies that it
defines, with the parameters defined with them. -/
inductive Expr.Scoped (known : String → Prop) : (String → Prop) → Expr → Prop
  | number {parameters value span} : Scoped known parameters (.number value span)
  | boolean {parameters value span} : Scoped known parameters (.boolean value span)
  | name {parameters ident} (bound : parameters ident.text ∨ known ident.text) :
    Scoped known parameters (.name ident)
  | form {parameters head operands span}
    (callee : Operator.ofName? head.text = none → known head.text)
    (evaluated : ∀ operand ∈ (Expr.form head operands span).evaluands,
      Scoped known parameters operand)
    (defined : Operator.ofName? head.text = some .define →
      ∀ (target : Name) (idents : List Name) (place : Span) (body : Expr),
        operands = [.form target (idents.map .name) place, body] →
          Scoped known (· ∈ idents.map (·.text)) body) :
    Scoped known parameters (.form head operands span)

structure Globals.Scoped (known : String → Prop) (globals : Globals) : Prop where
  bound : ∀ name, known name → (globals.get? name).isSome = true
  bodies : ∀ name meant, globals.get? name = some (.procedure meant) →
    meant.body.Scoped known (· ∈ meant.parameters)

def CallStack.Binds (stack : CallStack) (name : String) : Prop :=
  ((stack.frames.headD []).lookup name).isSome = true

def EvalError.isUndefined : EvalError → Bool
  | undefined .. => true
  | _ => false

variable {known parameters : String → Prop}

theorem Expr.Scoped.weaken {expr : Expr} (fits : expr.Scoped known parameters)
    {more : String → Prop} (wider : ∀ name, parameters name → more name) :
    expr.Scoped known more := by
  induction fits with
  | number => exact .number
  | boolean => exact .boolean
  | name bound => exact .name (bound.imp_left (wider _))
  | form callee evaluated defined ih _ =>
    exact .form callee (fun operand member => ih operand member wider) defined

theorem Globals.Scoped.insert {globals : Globals} (sound : globals.Scoped known) (name : String)
    {binding : Binding}
    (body : ∀ meant, binding = .procedure meant → meant.body.Scoped known (· ∈ meant.parameters)) :
    (globals.insert name binding).Scoped known where
  bound other among := by
    rw [get?_insert]
    split
    · rfl
    · exact sound.bound other among
  bodies := procedures_insert sound.bodies body

theorem Environment.lookup_isSome {env : Environment} (sound : env.globals.Scoped known)
    {name : String} (bound : env.stack.Binds name ∨ known name) :
    (env.lookup name).isSome = true := by
  unfold lookup
  rw [Option.isSome_or, Bool.or_eq_true]
  exact bound.imp id (sound.bound name)

/-- No name that evaluation comes across is without a binding. -/
theorem Expr.Scoped.misnames {env : Environment} {expr : Expr} {err : EvalError}
    (fits : expr.Scoped known env.stack.Binds) (globals : env.globals.Scoped known)
    (wrong : expr.Misnames env err) : err.isUndefined = false := by
  cases wrong with
  | reference unbound =>
    cases fits with
    | name bound =>
      have some := Environment.lookup_isSome globals bound
      rw [unbound] at some
      cases some
  | callee foreign unbound =>
    cases fits with
    | form callee =>
      have some := globals.bound _ (callee foreign)
      rw [unbound] at some
      cases some
  | other => rfl

def Guide.scope (known : String → Prop) : Guide CallStack where
  machine stack m n := m = n ∧ m.env.stack = stack ∧ m.env.globals.Scoped known ∧
    ∀ event ∈ m.log, ∀ err, event.dropped? = some err → err.isUndefined = false
  error err := err.isUndefined = false
  procedure meant := meant.body.Scoped known (· ∈ meant.parameters)
  fit stack expr := expr.Scoped known stack.Binds
  inner := id
  call := CallStack.push
  rank _ := 0

theorem Guide.leads_scope (known : String → Prop) : (scope known).Leads where
  settings meet := by rw [meet.1]; exact ⟨rfl, rfl, rfl⟩
  ordinary := by
    intro err _ unnamed
    cases err <;> first | rfl | cases unnamed
  misnamed := by
    rintro stack expr err m _ fits ⟨rfl, rfl, globals, -⟩ wrong
    exact fits.misnames globals wrong
  exhausted _ _ _ _ := rfl
  full _ _ _ := rfl
  ranked _ := Nat.le_refl _
  called _ _ := Nat.le_refl _
  operand := by
    rintro stack expr operand fits member
    cases fits with
    | form _ evaluated => exact evaluated operand member
    | number | boolean | name => cases member
  body := by
    rintro stack callee operands span meant bindings m n _ _ fits _ _ equal
    exact fits.weaken fun name member => Frame.isSome_lookup_ofArguments equal member
  lookup _ meet := by rw [meet.1]
  callee := by
    rintro _ callee operands span m _ _ _ ⟨rfl, -, globals, -⟩
    exact ⟨rfl, globals.bodies callee.text⟩
  defineValue := by
    rintro _ head name body span m _ _ _ ⟨rfl, stack, globals, shown⟩ value
    refine ⟨rfl, stack, globals.insert name.text fun meant same => ?_, shown⟩
    exact absurd same (Binding.ofValue_ne_procedure value meant)
  defineProcedure := by
    rintro _ head callee idents place body span m _ fits defining _ ⟨rfl, stack, globals, shown⟩
    refine ⟨rfl, stack, globals.insert callee.text ?_, shown⟩
    rintro _ ⟨⟩
    cases fits with
    | form _ _ defined => exact defined defining callee idents place body rfl
  note := by
    rintro _ m _ event ⟨rfl, stack, globals, shown⟩ _ allowed
    exact ⟨rfl, stack, globals, List.forall_mem_cons.mpr ⟨allowed, shown⟩⟩
  evaluating := by
    rintro _ expr m _ _ ⟨rfl, stack, globals, shown⟩
    exact ⟨rfl, stack, globals, List.forall_mem_cons.mpr ⟨nofun, shown⟩⟩
  enter meet := ⟨by rw [meet.1], meet.2⟩
  leave meet := ⟨by rw [meet.1], meet.2⟩
  push := by
    rintro _ m _ frame ⟨rfl, rfl, kept⟩ _
    exact ⟨rfl, rfl, kept⟩
  pop := by
    rintro stack frame m _ ⟨rfl, pushed, kept⟩
    refine ⟨rfl, ?_, kept⟩
    change m.env.stack.pop = stack
    rw [pushed]
    exact CallStack.pop_push stack frame

namespace Environment

/-- Evaluation of what is scoped does not fail for a name without a binding, nor does an argument
whose error is dropped, and all is scoped in the environment that it leaves. -/
theorem evaluate_scoped {env : Environment} {expr : Expr} (globals : env.globals.Scoped known)
    (fits : expr.Scoped known env.stack.Binds) :
    (∀ name span, (env.evaluate expr).result ≠ .error (.undefined name span)) ∧
    (∀ callee name span, .argumentDropped callee (.undefined name span) ∉ (env.evaluate expr).log) ∧
    (env.evaluate expr).env.globals.Scoped known ∧ (env.evaluate expr).env.stack = env.stack := by
  have meet : (Guide.scope known).machine env.stack { env } { env } := ⟨rfl, rfl, globals, nofun⟩
  obtain ⟨-, ⟨-, stack, kept, shown⟩, allowed⟩ :=
    (Guide.leads_scope known).evaluate fits meet (Nat.zero_le _)
  refine ⟨fun name span failed => ?_, fun callee name span dropped => ?_, kept, stack⟩
  · cases allowed _ failed
  · cases shown _ (List.mem_reverse.mpr dropped) _ rfl

def definer : Environment :=
  (withConfig {}).define "f" (.procedure ⟨"f", ["x"],
    .form ⟨"define", .unknown⟩ [.form ⟨"g", .unknown⟩ [.name ⟨"y", .unknown⟩] .unknown,
      .form ⟨"f", .unknown⟩ [.name ⟨"y", .unknown⟩] .unknown] .unknown⟩)

theorem definer_scoped :
    let call := Expr.form ⟨"f", .unknown⟩ [.boolean true .unknown] .unknown
    definer.globals.Scoped (· = "f") ∧ call.Scoped (· = "f") definer.stack.Binds ∧
      ((definer.evaluate call).env.globals.get? "g").isSome = true ∧
      (definer.evaluate call).env.globals.Scoped (· = "f") := by
  intro call
  have fits : call.Scoped (· = "f") definer.stack.Binds := by
    refine .form (fun _ => rfl) (fun operand member => ?_) nofun
    obtain rfl := List.mem_singleton.mp member
    exact .boolean
  have inner : (Expr.form ⟨"f", .unknown⟩ [.name ⟨"y", .unknown⟩] .unknown).Scoped
      (· = "f") (· ∈ ["y"]) := by
    refine .form (fun _ => rfl) (fun operand member => ?_) nofun
    obtain rfl := List.mem_singleton.mp member
    exact .name (.inl List.mem_cons_self)
  have sound : definer.globals.Scoped (· = "f") := by
    refine ⟨by rintro _ rfl; rfl, Globals.procedures_insert nofun ?_⟩
    rintro _ ⟨⟩
    refine .form nofun nofun ?_
    rintro _ target idents place body same
    simp only [List.cons.injEq, Expr.form.injEq, and_true] at same
    obtain ⟨⟨-, names, -⟩, rfl⟩ := same
    obtain ⟨ident, rfl, named⟩ := List.map_eq_singleton_iff.mp names.symm
    obtain rfl := Expr.name.inj named
    exact inner
  exact ⟨sound, fits, rfl, (evaluate_scoped sound fits).2.2.1⟩

end Environment

end LineLisp
