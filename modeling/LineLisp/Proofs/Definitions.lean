import LineLisp.Proofs.Globals
import LineLisp.Proofs.Simulation.Guided

/-! What evaluation defines.
Whatever is evaluated stands in the expression or in the body of a procedure that
is bound at the start, also where a procedure is called that was defined on the
way. So globals change only where a definition in one of these says so. -/
namespace LineLisp

namespace Expr

inductive Defines (target : String) : Expr → Prop
  | value {place name body span} (named : name.text = target) :
    Defines target (.form ⟨Operator.define.symbol, place⟩ [.name name, body] span)
  | procedure {place head parameters seat body span} (named : head.text = target) :
    Defines target (.form ⟨Operator.define.symbol, place⟩ [.form head parameters seat, body] span)

end Expr

namespace Environment

inductive Source (start : Environment) (expr part : Expr) : Prop
  | expression (inside : part.Part expr)
  | body {name meant} (bound : start.globals.get? name = some (.procedure meant))
    (inside : part.Part meant.body)

def Defined (start : Environment) (expr : Expr) (name : String) : Prop :=
  ∃ definition, start.Source expr definition ∧ definition.Defines name

variable {start : Environment} {expr : Expr}

theorem Source.part {part whole : Expr} (source : start.Source expr whole) (inner : part.Part whole) :
    start.Source expr part := by
  cases source with
  | expression inside => exact .expression (inner.trans inside)
  | body bound inside => exact .body bound (inner.trans inside)

structure Kept (start : Environment) (expr : Expr) (globals : Globals) : Prop where
  same : ∀ name, ¬ start.Defined expr name → globals.get? name = start.globals.get? name
  bound : ∀ name, (start.globals.get? name).isSome = true → (globals.get? name).isSome = true
  bodies : ∀ name meant, globals.get? name = some (.procedure meant) →
    start.globals.get? name = some (.procedure meant) ∨ start.Source expr meant.body

theorem Kept.body {globals : Globals} (kept : start.Kept expr globals) {name : String}
    {meant : Procedure} (bound : globals.get? name = some (.procedure meant)) :
    start.Source expr meant.body :=
  (kept.bodies name meant bound).elim (fun before => .body before .self) id

theorem Kept.insert {globals : Globals} (kept : start.Kept expr globals) {name : String}
    {binding : Binding} (defined : start.Defined expr name)
    (source : ∀ meant, binding = .procedure meant → start.Source expr meant.body) :
    start.Kept expr (globals.insert name binding) where
  same other free := by
    have apart : other ≠ name := fun same => free (same ▸ defined)
    rw [Globals.get?_insert, if_neg apart]
    exact kept.same other free
  bound other before := by
    rw [Globals.get?_insert]
    split
    · rfl
    · exact kept.bound other before
  bodies := Globals.procedures_insert kept.bodies fun meant same => .inr (source meant same)

end Environment

def Guide.sources (start : Environment) (expr : Expr) : Guide Unit where
  machine _ m n := m = n ∧ start.Kept expr m.env.globals
  error _ := True
  procedure meant := start.Source expr meant.body
  fit _ part := start.Source expr part
  inner := id
  call _ _ := ()
  rank _ := 0

theorem Guide.leads_sources (start : Environment) (expr : Expr) : (sources start expr).Leads where
  settings meet := by rw [meet.1]; exact ⟨rfl, rfl, rfl⟩
  ordinary _ _ := trivial
  misnamed _ _ _ := trivial
  exhausted _ _ _ _ := trivial
  full _ _ _ := trivial
  ranked _ := Nat.le_refl _
  called _ _ := Nat.le_refl _
  operand source member := source.part (Expr.part_of_mem_evaluands member)
  body _ _ known _ _ _ := known
  lookup _ meet := by rw [meet.1]
  callee _ _ meet := by
    obtain ⟨rfl, kept⟩ := meet
    exact ⟨rfl, fun _ bound => kept.body bound⟩
  defineValue := by
    rintro _ head name body span m _ source defining ⟨rfl, kept⟩ value
    obtain ⟨text, place⟩ := head
    obtain rfl := Operator.symbol_of_ofName? defining
    refine ⟨rfl, kept.insert ⟨_, source, .value rfl⟩ fun meant same => ?_⟩
    exact absurd same (Binding.ofValue_ne_procedure value meant)
  defineProcedure := by
    rintro _ head callee idents place body span m _ source defining _ ⟨rfl, kept⟩
    obtain ⟨text, place⟩ := head
    obtain rfl := Operator.symbol_of_ofName? defining
    refine ⟨rfl, kept.insert ⟨_, source, .procedure rfl⟩ ?_⟩
    rintro _ ⟨⟩
    exact source.part (.operand (by simp) .self)
  note meet _ _ := ⟨by rw [meet.1], meet.2⟩
  evaluating _ meet := ⟨by rw [meet.1], meet.2⟩
  enter meet := ⟨by rw [meet.1], meet.2⟩
  leave meet := ⟨by rw [meet.1], meet.2⟩
  push meet _ := ⟨by rw [meet.1], meet.2⟩
  pop meet := ⟨by rw [meet.1], meet.2⟩

namespace Environment

/-- Globals change only where a definition says so, and only procedures are added whose bodies were
there before. -/
theorem evaluate_defines (env : Environment) (expr : Expr) :
    let after := (env.evaluate expr).env.globals
    (∀ name, ¬ env.Defined expr name → after.get? name = env.globals.get? name) ∧
    (∀ name, (env.globals.get? name).isSome = true → (after.get? name).isSome = true) ∧
    (∀ name meant, after.get? name = some (.procedure meant) →
      env.globals.get? name = some (.procedure meant) ∨ env.Source expr meant.body) ∧
    ((∀ name, ¬ env.Defined expr name) → after = env.globals) := by
  have meet : (Guide.sources env expr).machine () { env } { env } :=
    ⟨rfl, fun _ _ => rfl, fun _ => id, fun _ _ => .inl⟩
  obtain ⟨-, ⟨-, kept⟩, -⟩ := (Guide.leads_sources env expr).evaluate (.expression .self) meet
    (Nat.zero_le _)
  exact ⟨kept.same, kept.bound, kept.bodies, fun free =>
    Globals.eq_of_get? fun name => kept.same name (free name)⟩

def recorder : Environment :=
  (withConfig {}).define "f" (.procedure ⟨"f", ["x"],
    .form ⟨"define", .unknown⟩ [.name ⟨"y", .unknown⟩, .name ⟨"x", .unknown⟩] .unknown⟩)

theorem recorder_defines :
    let call := Expr.form ⟨"f", .unknown⟩ [.boolean true .unknown] .unknown
    recorder.Defined call "y" ∧ recorder.globals.get? "y" = none ∧
      (recorder.evaluate call).env.globals.get? "y" = some (.boolean true) ∧
      ((recorder.evaluate call).env.globals.get? "f").isSome = true := by
  have bound : recorder.globals.get? "f" = some (.procedure ⟨"f", ["x"],
      .form ⟨"define", .unknown⟩ [.name ⟨"y", .unknown⟩, .name ⟨"x", .unknown⟩] .unknown⟩) := rfl
  have defined : recorder.Defined (.form ⟨"f", .unknown⟩ [.boolean true .unknown] .unknown) "y" :=
    ⟨_, .body bound .self, .value rfl⟩
  exact ⟨defined, rfl, rfl, (evaluate_defines recorder _).2.1 "f" rfl⟩

end Environment

end LineLisp
