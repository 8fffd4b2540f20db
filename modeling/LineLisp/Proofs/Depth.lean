import LineLisp.Proofs.Reachable

/-! How deep evaluations get.
The parser bounds how deep forms are nested, the evaluator how deep evaluations
are. A body that is kept is less deep than the line that it comes from, so that
each call that is possible adds a fixed number of evaluations at most: with room
for those of all calls and of one line, evaluations never run out. -/
namespace LineLisp

namespace Expr

/-- The part stands where evaluation of the whole comes if no error stops it before. -/
inductive Evaluated (part : Expr) : Expr → Prop
  | self : Evaluated part part
  | inside {operand whole} (member : operand ∈ whole.evaluands) (inner : Evaluated part operand) :
    Evaluated part whole

def BuiltIn (expr : Expr) : Prop :=
  ∀ {head operands span}, Evaluated (.form head operands span) expr →
    (Operator.ofName? head.text).isSome = true

theorem BuiltIn.evaluand {expr operand : Expr} (builtin : expr.BuiltIn)
    (member : operand ∈ expr.evaluands) : operand.BuiltIn :=
  fun inner => builtin (.inside member inner)

theorem BuiltIn.head {head : Name} {operands : List Expr} {span : Span}
    (builtin : (form head operands span).BuiltIn) : Operator.ofName? head.text ≠ none :=
  Option.isSome_iff_ne_none.mp (builtin .self)

theorem depth_lt_of_mem_evaluands {operand expr : Expr} (member : operand ∈ expr.evaluands) :
    operand.depth < expr.depth := by
  cases expr with
  | form head operands span => exact depth_lt_of_mem (mem_of_mem_evaluands member)
  | number | boolean | name => cases member

end Expr

def Globals.Shallow (globals : Globals) : Prop :=
  ∀ name meant, globals.get? name = some (.procedure meant) → meant.body.depth ≤ maxNesting - 1

theorem Globals.Proper.shallow {globals : Globals} (proper : globals.Proper) : globals.Shallow :=
  fun name meant bound => (proper.procedures name meant bound).shallow

theorem Globals.Shallow.insert {globals : Globals} (shallow : globals.Shallow) (name : String)
    {binding : Binding}
    (kept : ∀ meant, binding = .procedure meant → meant.body.depth ≤ maxNesting - 1) :
    (globals.insert name binding).Shallow :=
  procedures_insert shallow kept

structure Stage where
  room : Nat
  calls : Nat

def Expr.need (expr : Expr) (left : Nat) : Nat :=
  expr.depth + 1 + (maxNesting - 1) * left

def Guide.roomy (calls : Nat) : Guide Stage where
  machine stage m n := m = n ∧ m.env.config.maxCallDepth = calls ∧ m.env.depth = stage.calls ∧
    m.env.globals.Shallow
  error err := ∀ depth, err ≠ .nestingTooDeep depth
  procedure meant := meant.body.depth ≤ maxNesting - 1
  fit stage expr := expr.depth ≤ maxNesting ∧ expr.need (calls - stage.calls) ≤ stage.room
  inner stage := { stage with room := stage.room - 1 }
  call stage _ := { stage with calls := stage.calls + 1 }
  rank stage := stage.room

theorem Expr.need_evaluand {expr operand : Expr} (member : operand ∈ expr.evaluands)
    {left room : Nat} (enough : expr.need left ≤ room) : operand.need left ≤ room - 1 := by
  have deeper := depth_lt_of_mem_evaluands member
  unfold need at enough ⊢
  omega

/-- A call needs more room than what is called. -/
theorem Expr.need_body {head : Name} {operands : List Expr} {span : Span} {body : Expr}
    (shallow : body.depth ≤ maxNesting - 1) {left room : Nat}
    (enough : (form head operands span).need (left + 1) ≤ room) : body.need left ≤ room - 1 := by
  have form : 1 ≤ (form head operands span).depth := Nat.le_add_left _ _
  unfold need at enough ⊢
  rw [Nat.mul_succ] at enough
  omega

theorem Guide.leads_roomy (calls : Nat) : (roomy calls).Leads where
  settings meet := by rw [meet.1]; exact ⟨rfl, rfl, rfl⟩
  ordinary regular _ := by
    rintro depth rfl
    cases regular
  misnamed := by
    rintro _ _ _ _ _ _ _ wrong depth rfl
    cases wrong
  exhausted _ _ _ _ := nofun
  full := by
    rintro stage expr _ _ ⟨-, enough⟩ (none : stage.room = 0) _
    unfold Expr.need at enough
    omega
  ranked _ := Nat.le_refl _
  called _ _ := Nat.le_refl _
  operand fits member :=
    ⟨Nat.le_trans (Nat.le_of_lt (Expr.depth_lt_of_mem_evaluands member)) fits.1,
      Expr.need_evaluand member fits.2⟩
  body := by
    rintro ⟨room, made⟩ callee operands span meant bindings m _ ⟨-, enough⟩ foreign shallow
      ⟨rfl, rfl, depth, _⟩ free _
    change m.env.depth = made at depth
    -- The call is one of those that were left, and its body has to do with one less.
    have left : m.env.config.maxCallDepth - made = m.env.config.maxCallDepth - (made + 1) + 1 := by
      omega
    dsimp only at enough
    rw [left] at enough
    exact ⟨Nat.le_trans shallow (Nat.sub_le _ _), Expr.need_body shallow enough⟩
  lookup _ meet := by rw [meet.1]
  callee _ _ meet := by
    obtain ⟨rfl, -, -, shallow⟩ := meet
    exact ⟨rfl, shallow _⟩
  defineValue := by
    rintro _ head name body span m _ - defining ⟨rfl, allowed, depth, shallow⟩ value
    refine ⟨rfl, allowed, depth, shallow.insert name.text fun meant same => ?_⟩
    exact absurd same (Binding.ofValue_ne_procedure value meant)
  defineProcedure := by
    rintro _ head callee idents place body span m _ ⟨within, -⟩ defining foreign
      ⟨rfl, allowed, depth, shallow⟩
    refine ⟨rfl, allowed, depth, shallow.insert callee.text ?_⟩
    rintro _ ⟨⟩
    exact Expr.depth_body within
  note meet _ _ := ⟨by rw [meet.1], meet.2⟩
  evaluating _ meet := ⟨by rw [meet.1], meet.2⟩
  enter meet := ⟨by rw [meet.1], meet.2⟩
  leave meet := ⟨by rw [meet.1], meet.2⟩
  push := by
    rintro _ m _ frame ⟨rfl, allowed, depth, shallow⟩ _
    exact ⟨rfl, allowed, congrArg (· + 1) depth, shallow⟩
  pop := by
    rintro _ frame m _ ⟨rfl, allowed, depth, shallow⟩
    exact ⟨rfl, allowed, congrArg (· - 1) depth, shallow⟩

def Guide.builtin : Guide Nat where
  machine _ m n := m = n
  error err := err.isFatal = false
  procedure _ := False
  fit room expr := expr.BuiltIn ∧ expr.depth < room
  inner room := room - 1
  call room _ := room
  rank := id

theorem Guide.leads_builtin : builtin.Leads where
  settings meet := by cases meet; exact ⟨rfl, rfl, rfl⟩
  ordinary regular _ := regular
  misnamed _ _ wrong := by cases wrong <;> rfl
  exhausted fits foreign _ _ := absurd foreign (Expr.BuiltIn.head fits.1)
  full := by
    rintro room expr _ _ ⟨-, enough⟩ (rfl : room = 0) _
    cases enough
  ranked _ := Nat.le_refl _
  called _ _ := Nat.le_refl _
  operand fits member := by
    have deeper := Expr.depth_lt_of_mem_evaluands member
    have enough := fits.2
    exact ⟨Expr.BuiltIn.evaluand fits.1 member, by dsimp only [builtin]; omega⟩
  body _ _ known _ _ _ := known.elim
  lookup _ meet := by cases meet; rfl
  callee fits foreign _ := absurd foreign (Expr.BuiltIn.head fits.1)
  defineValue _ _ meet _ := by cases meet; rfl
  defineProcedure _ _ _ meet := by cases meet; rfl
  note meet _ _ := by cases meet; rfl
  evaluating _ meet := by cases meet; rfl
  enter meet := by cases meet; rfl
  leave meet := by cases meet; rfl
  push meet _ := by cases meet; rfl
  pop meet := by cases meet; rfl

namespace Environment

variable {env : Environment} {expr : Expr} {err : EvalError}

theorem evaluate_roomy (shallow : env.globals.Shallow) (within : expr.depth ≤ maxNesting)
    (enough : expr.need (env.config.maxCallDepth - env.depth) ≤ env.room)
    (failed : (env.evaluate expr).result = .error err) (depth : Nat) : err ≠ .nestingTooDeep depth := by
  have meet : (Guide.roomy env.config.maxCallDepth).machine ⟨env.room, env.depth⟩ { env } { env } :=
    ⟨rfl, rfl, rfl, shallow⟩
  obtain ⟨-, -, errors⟩ := (Guide.leads_roomy _).evaluate ⟨within, enough⟩ meet (Nat.le_refl _)
  exact errors err failed depth

theorem evaluate_builtin (builtin : expr.BuiltIn) (enough : expr.depth < env.room)
    (failed : (env.evaluate expr).result = .error err) : err.isFatal = false := by
  have meet : Guide.builtin.machine env.room { env } { env } := rfl
  obtain ⟨-, -, errors⟩ := Guide.leads_builtin.evaluate ⟨builtin, enough⟩ meet (Nat.le_refl _)
  exact errors err failed

/-- How a line can fail in evaluation. -/
theorem runLine_failed {line : String} {failure : EvalError}
    (failed : (env.runLine line).result = .error (.eval failure)) :
    ∃ tokens expr, tokenize line = .ok tokens ∧ parse tokens = .ok expr ∧
      (env.evaluate expr).result = .error failure := by
  have ran := runLine_ran env line
  generalize env.runLine line = outcome at ran failed
  cases ran with
  | refused early => exact absurd (Except.error.inj failed) (early failure)
  | @evaluated tokens expr read parsed =>
    refine ⟨tokens, expr, read, parsed, ?_⟩
    dsimp only at failed
    cases result : (env.evaluate expr).result with
    | ok value =>
      rw [result] at failed
      cases failed
    | error err =>
      rw [result] at failed
      cases failed
      rfl

theorem runLines_roomy {config : Config} {lines : List String} {line : String} {err : Error}
    (enough : maxNesting + 1 + (maxNesting - 1) * config.maxCallDepth ≤ config.maxEvalDepth)
    (failed : (((withConfig config).runLines lines).runLine line).result = .error err)
    (depth : Nat) : err ≠ .eval (.nestingTooDeep depth) := by
  rintro rfl
  obtain ⟨tokens, expr, read, parsed, failed⟩ := runLine_failed failed
  have within := (parse_wellFormed read parsed).2
  have proper : ((withConfig config).runLines lines).globals.Proper :=
    runLines_proper Globals.proper_empty CallStack.data_empty lines
  have room : expr.need config.maxCallDepth ≤ config.maxEvalDepth := by
    unfold Expr.need
    omega
  refine evaluate_roomy proper.shallow within ?_ failed depth rfl
  rw [runLines_env]
  exact room

theorem runLine_builtin {line : String} {err : Error} (still : env.nesting = 0)
    (enough : maxNesting + 1 ≤ env.config.maxEvalDepth)
    (builtin : ∀ tokens expr, tokenize line = .ok tokens → parse tokens = .ok expr → expr.BuiltIn)
    (failed : (env.runLine line).result = .error err) : err.isFatal = false := by
  cases err with
  | lex | parse => rfl
  | eval failure =>
    obtain ⟨tokens, expr, read, parsed, failed⟩ := runLine_failed failed
    have within := (parse_wellFormed read parsed).2
    refine evaluate_builtin (builtin tokens expr read parsed) ?_ failed
    rw [room, still]
    omega

/-- A session with room for the calls that it may make has room for all evaluations of a line, and
without calls there is room if there is for the deepest line. -/
theorem runLine_room :
    (∀ (config : Config) (lines : List String) (line : String) (err : Error),
      maxNesting + 1 + (maxNesting - 1) * config.maxCallDepth ≤ config.maxEvalDepth →
      (((withConfig config).runLines lines).runLine line).result = .error err →
        (∀ depth, err ≠ .eval (.nestingTooDeep depth)) ∧
        (err.isFatal = true → ∃ depth, err = .eval (.stackExhausted depth))) ∧
    ∀ (env : Environment) (line : String) (err : Error),
      env.nesting = 0 → maxNesting + 1 ≤ env.config.maxEvalDepth →
      (∀ tokens expr, tokenize line = .ok tokens → parse tokens = .ok expr → expr.BuiltIn) →
      (env.runLine line).result = .error err → err.isFatal = false := by
  constructor
  · intro config lines line err enough failed
    have roomy := runLines_roomy enough failed
    refine ⟨roomy, fun fatal => ?_⟩
    cases err with
    | lex | parse => cases fatal
    | eval failure =>
      cases failure with
      | stackExhausted depth => exact ⟨depth, rfl⟩
      | nestingTooDeep depth => exact absurd rfl (roomy depth)
      | _ => cases fatal
  · intro env line err still enough builtin failed
    exact runLine_builtin still enough builtin failed

/-- A call inside a call with just the room for it, and a line without calls under the usual
limits. -/
theorem runLine_room_endless :
    let env := (withConfig ⟨.swallow, 1, 400⟩).runLines ["(define (f) (f))"]
    (∃ err depth, (env.runLine "(f)").result = .error err ∧ err.isFatal = true ∧
      err = .eval (.stackExhausted depth)) ∧
    ∃ err, ((withConfig {}).runLine "(not)").result = .error err ∧ err.isFatal = false := by
  intro env
  have define : tokenize "(define (f) (f))" = .ok [
      ⟨.leftParen, "(", .columns 0 1⟩, ⟨.operator .define, "define", .columns 1 7⟩,
      ⟨.leftParen, "(", .columns 8 9⟩, ⟨.name, "f", .columns 9 10⟩,
      ⟨.rightParen, ")", .columns 10 11⟩, ⟨.leftParen, "(", .columns 12 13⟩,
      ⟨.name, "f", .columns 13 14⟩, ⟨.rightParen, ")", .columns 14 15⟩,
      ⟨.rightParen, ")", .columns 15 16⟩] := by decide +kernel
  have call : tokenize "(f)" = .ok [⟨.leftParen, "(", .columns 0 1⟩, ⟨.name, "f", .columns 1 2⟩,
      ⟨.rightParen, ")", .columns 2 3⟩] := by decide +kernel
  have negation : tokenize "(not)" = .ok [⟨.leftParen, "(", .columns 0 1⟩,
      ⟨.operator .not, "not", .columns 1 4⟩, ⟨.rightParen, ")", .columns 4 5⟩] := by decide +kernel
  constructor
  · have failed : (env.runLine "(f)").result = .error (.eval (.stackExhausted 1)) := by
      change (((withConfig ⟨.swallow, 1, 400⟩).runLine _).env.runLine _).result = _
      rw [runLine_eq _ define, runLine_eq _ call]
      rfl
    obtain ⟨depth, same⟩ :=
      (runLine_room.1 ⟨.swallow, 1, 400⟩ ["(define (f) (f))"] "(f)" _ (by decide) failed).2 rfl
    exact ⟨_, depth, failed, rfl, same⟩
  · have failed : ((withConfig {}).runLine "(not)").result =
        .error (.eval (.arityMismatch "not" 1 0 (.columns 0 5))) := by
      rw [runLine_eq _ negation]
      rfl
    refine ⟨_, failed, runLine_room.2 (withConfig {}) "(not)" _ rfl (by decide) ?_ failed⟩
    intro tokens expr read parsed
    rw [negation] at read
    cases read
    cases parsed
    intro head operands span inner
    cases inner with
    | self => rfl
    | inside member _ => cases member

end Environment

end LineLisp
