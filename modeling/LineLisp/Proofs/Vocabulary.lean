import LineLisp.Proofs.Callers
import LineLisp.Proofs.Globals
import LineLisp.Proofs.Simulation.Guided

/-! Names that matter.
Evaluation of an expression comes across the names in it and in the procedures
that these are bound to. What other names are bound to makes no difference. -/
namespace LineLisp

structure Expr.UsesOnly (known : String → Prop) (expr : Expr) : Prop where
  names : ∀ {ident}, Part (.name ident) expr → known ident.text
  heads : ∀ {head operands span}, Part (.form head operands span) expr → known head.text

theorem Expr.UsesOnly.part {known : String → Prop} {part whole : Expr}
    (uses : whole.UsesOnly known) (inside : part.Part whole) : part.UsesOnly known where
  names inner := uses.names (inner.trans inside)
  heads inner := uses.heads (inner.trans inside)

theorem Expr.UsesOnly.name {known : String → Prop} {ident : Name} (among : known ident.text) :
    (Expr.name ident).UsesOnly known where
  names inside := by cases inside; exact among
  heads := nofun

theorem Expr.UsesOnly.form {known : String → Prop} {head : Name} {operands : List Expr} {span : Span}
    (among : known head.text) (uses : ∀ operand ∈ operands, operand.UsesOnly known) :
    (Expr.form head operands span).UsesOnly known where
  names inside := by
    cases inside with
    | operand member inner => exact (uses _ member).names inner
  heads inside := by
    cases inside with
    | self => exact among
    | operand member inner => exact (uses _ member).heads inner

structure Procedure.UsesOnly (known : String → Prop) (procedure : Procedure) : Prop where
  parameters : ∀ name ∈ procedure.parameters, known name
  body : procedure.body.UsesOnly known

namespace Globals

variable {known : String → Prop} {globals others : Globals}

def Closed (known : String → Prop) (globals : Globals) : Prop :=
  ∀ name meant, globals.get? name = some (.procedure meant) → known name → meant.UsesOnly known

def Agree (known : String → Prop) (globals others : Globals) : Prop :=
  ∀ name, known name → globals.get? name = others.get? name

theorem Closed.of_agree (closed : globals.Closed known) (agree : globals.Agree known others) :
    others.Closed known := by
  intro name meant bound familiar
  exact closed name meant ((agree name familiar).trans bound) familiar

theorem Closed.insert (closed : globals.Closed known) (name : String) {binding : Binding}
    (uses : ∀ meant, binding = .procedure meant → meant.UsesOnly known) :
    (globals.insert name binding).Closed known :=
  procedures_insert closed fun meant same _ => uses meant same

theorem Agree.insert (agree : globals.Agree known others) (name : String) (binding : Binding) :
    (globals.insert name binding).Agree known (others.insert name binding) := by
  intro other familiar
  rw [get?_insert, get?_insert, agree other familiar]

theorem agree_insert {name : String} (unknown : ¬ known name) (binding : Binding) :
    globals.Agree known (globals.insert name binding) := by
  intro other familiar
  rw [get?_insert, if_neg (by rintro rfl; exact unknown familiar)]

end Globals

structure Machine.Familiar (known : String → Prop) (m n : Machine) : Prop where
  stack : m.env.stack = n.env.stack
  nesting : m.env.nesting = n.env.nesting
  config : m.env.config = n.env.config
  agree : m.env.globals.Agree known n.env.globals
  closed : m.env.globals.Closed known
  log : m.log.map Event.record = n.log.map Event.record

namespace Machine.Familiar

variable {known : String → Prop} {m n : Machine}

theorem depth (familiar : m.Familiar known n) : m.env.depth = n.env.depth :=
  congrArg CallStack.depth familiar.stack

theorem lookup (familiar : m.Familiar known n) {name : String} (among : known name) :
    m.env.lookup name = n.env.lookup name := by
  unfold Environment.lookup Environment.top
  rw [familiar.stack, familiar.agree name among]

theorem note (familiar : m.Familiar known n) {event other : Event}
    (same : event.record = other.record) :
    Familiar known { m with log := event :: m.log } { n with log := other :: n.log } :=
  { familiar with log := by rw [List.map_cons, List.map_cons, same, familiar.log] }

theorem define (familiar : m.Familiar known n) (name : String) {binding : Binding}
    (uses : ∀ meant, binding = .procedure meant → meant.UsesOnly known) :
    Familiar known { m with env := m.env.define name binding }
      { n with env := n.env.define name binding } :=
  { familiar with
    agree := familiar.agree.insert name binding
    closed := familiar.closed.insert name uses }

end Machine.Familiar

def Guide.vocabulary (known : String → Prop) : Guide Unit where
  machine _ m n := m.Familiar known n
  error _ := True
  procedure meant := meant.UsesOnly known
  fit _ expr := expr.UsesOnly known
  inner := id
  call _ _ := ()
  rank _ := 0

theorem Guide.leads_vocabulary (known : String → Prop) : (vocabulary known).Leads where
  settings meet := ⟨meet.config, meet.nesting, meet.depth⟩
  ordinary _ _ := trivial
  misnamed _ _ _ := trivial
  exhausted _ _ _ _ := trivial
  full _ _ _ := trivial
  ranked _ := Nat.le_refl _
  called _ _ := Nat.le_refl _
  operand uses member := uses.part (Expr.part_of_mem_evaluands member)
  body _ _ uses _ _ _ := uses.body
  lookup uses meet := by rw [meet.lookup (uses.names .self)]
  callee uses _ meet := by
    have among := uses.heads .self
    have closed := meet.closed.of_agree meet.agree
    exact ⟨meet.agree _ among, fun meant bound => closed _ meant bound among⟩
  defineValue := by
    intro _ _ _ _ _ _ _ _ _ meet value
    exact meet.define _ fun meant same =>
      absurd same (Binding.ofValue_ne_procedure value meant)
  defineProcedure := by
    intro _ _ _ idents _ _ _ _ _ uses _ _ meet
    refine meet.define _ ?_
    rintro _ ⟨⟩
    refine ⟨fun name member => ?_, uses.part (.operand (by simp) .self)⟩
    obtain ⟨ident, among, rfl⟩ := List.mem_map.mp member
    exact uses.names (.operand (List.mem_cons_self) (.operand (List.mem_map_of_mem among) .self))
  note meet _ _ := meet.note rfl
  evaluating _ meet := meet.note (Event.record_evaluating _ meet.depth)
  enter meet := { meet with nesting := congrArg (· + 1) meet.nesting }
  leave meet := { meet with nesting := congrArg (· - 1) meet.nesting }
  push meet _ := { meet with stack := congrArg (CallStack.push · _) meet.stack }
  pop meet := { meet with stack := congrArg CallStack.pop meet.stack }

namespace Environment

/-- Evaluation of an expression is up to the names in it and in the procedures they are bound to,
and is so again afterwards. -/
theorem evaluate_vocabulary {known : String → Prop} {env other : Environment} {expr : Expr}
    (stack : env.stack = other.stack) (nesting : env.nesting = other.nesting)
    (config : env.config = other.config) (agree : env.globals.Agree known other.globals)
    (closed : env.globals.Closed known) (uses : expr.UsesOnly known) :
    (env.evaluate expr).result = (other.evaluate expr).result ∧
      (env.evaluate expr).log.map Event.record = (other.evaluate expr).log.map Event.record ∧
      (env.evaluate expr).env.globals.Agree known (other.evaluate expr).env.globals ∧
      (env.evaluate expr).env.globals.Closed known ∧
      (other.evaluate expr).env.globals.Closed known := by
  have meet : (Guide.vocabulary known).machine () { env } { env := other } :=
    ⟨stack, nesting, config, agree, closed, rfl⟩
  obtain ⟨same, ends, -⟩ := (Guide.leads_vocabulary known).evaluate uses meet (Nat.zero_le _)
  refine ⟨same, ?_, ends.agree, ends.closed, ends.closed.of_agree ends.agree⟩
  simpa using ends.log

/-- A call of what is known, in an environment with one more definition. -/
theorem evaluate_vocabulary_call :
    let known (name : String) := name ≠ "g"
    let env := (withConfig {}).define "f" (.procedure ⟨"f", ["x"], .name ⟨"x", .unknown⟩⟩)
    let call := Expr.form ⟨"f", .unknown⟩ [.boolean true .unknown] .unknown
    env.globals.Closed known ∧ call.UsesOnly known ∧
      (env.evaluate call).result = ((env.define "g" .void).evaluate call).result := by
  intro known env call
  have argument : (Expr.boolean true .unknown).UsesOnly known := ⟨nofun, nofun⟩
  have uses : call.UsesOnly known := .form (by decide) (by simpa using argument)
  have closed : env.globals.Closed known := by
    refine Globals.Closed.insert nofun "f" ?_
    rintro _ ⟨⟩
    exact ⟨by simp [known], .name (by decide)⟩
  have agree : env.globals.Agree known (env.define "g" .void).globals :=
    Globals.agree_insert (not_not.mpr rfl) .void
  have stack : env.stack = (env.define "g" .void).stack := rfl
  exact ⟨closed, uses, (evaluate_vocabulary stack rfl rfl agree closed uses).1⟩

end Environment

end LineLisp
