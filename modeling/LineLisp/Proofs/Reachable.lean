import LineLisp.Proofs.Globals
import LineLisp.Proofs.Layout
import LineLisp.Proofs.Log
import LineLisp.Proofs.Recursion
import LineLisp.Proofs.Simulation.Guided
import LineLisp.Proofs.WellFormed

/-! What sessions reach.
Globals are defined by lines alone, but not only by what a line itself evaluates:
the body of a procedure may hold definitions of its own, which take effect when it
is called. Whatever is kept for that is a part of a line that was read. -/
namespace LineLisp

open Text (byteLength)

structure Procedure.Proper (name : String) (meant : Procedure) : Prop where
  named : meant.name = name
  parameters : ∀ parameter ∈ meant.parameters, Nameable parameter
  body : meant.body.WellFormed
  shallow : meant.body.depth ≤ maxNesting - 1

structure Globals.Proper (globals : Globals) : Prop where
  names : ∀ name binding, globals.get? name = some binding → Nameable name
  procedures : ∀ name meant, globals.get? name = some (.procedure meant) → meant.Proper name

def CallStack.Data (stack : CallStack) : Prop :=
  ∀ frame ∈ stack.frames, ∀ entry ∈ frame, entry.2.isData = true

def Event.Proper : Event → Prop
  | .evaluating expr env => expr.WellFormed ∧ env.stack.Data
  | _ => True

structure Machine.Proper (machine : Machine) : Prop where
  globals : machine.env.globals.Proper
  stack : machine.env.stack.Data
  log : ∀ event ∈ machine.log, event.Proper

theorem Globals.proper_empty : empty.Proper :=
  ⟨nofun, nofun⟩

theorem Globals.Proper.insert {globals : Globals} (proper : globals.Proper) {name : String}
    {binding : Binding} (nameable : Nameable name)
    (procedure : ∀ meant, binding = .procedure meant → meant.Proper name) :
    (globals.insert name binding).Proper where
  names other found bound := by
    rw [get?_insert] at bound
    split at bound
    · rename_i same
      exact same ▸ nameable
    · exact proper.names other found bound
  procedures := procedures_insert proper.procedures procedure

theorem CallStack.data_empty : Data {} :=
  nofun

theorem CallStack.Data.push {stack : CallStack} (data : stack.Data) {frame : Frame}
    (framed : ∀ entry ∈ frame, entry.2.isData = true) : (stack.push frame).Data :=
  List.forall_mem_cons.mpr ⟨framed, data⟩

theorem CallStack.Data.pop {stack : CallStack} (data : stack.Data) : stack.pop.Data :=
  fun frame member => data frame (List.mem_of_mem_tail member)

theorem Environment.lookup_parameter {env : Environment} (data : env.stack.Data) {name : String}
    (parameter : (env.top.lookup name).isSome = true) :
    ∃ binding, env.lookup name = some binding ∧ binding.isData = true := by
  obtain ⟨binding, found⟩ := Option.isSome_iff_exists.mp parameter
  refine ⟨binding, by rw [lookup, found, Option.some_or], ?_⟩
  unfold top at found
  cases frames : env.stack.frames with
  | nil =>
    rw [frames] at found
    cases found
  | cons frame rest =>
    rw [frames] at found
    obtain ⟨front, back, entries, -⟩ := List.lookup_eq_some_iff.mp found
    exact data frame (by simp [frames]) (name, binding) (by simp [show frame = _ from entries])

/-- A reference to a parameter does not show a procedure. -/
theorem Rules.value_parameter {env : Environment} (data : env.stack.Data) {ident : Name}
    (parameter : (env.top.lookup ident.text).isSome = true) {self : Expr → Run Value}
    {log : List Event} {name : String} {after : Machine} :
    value self (.name ident) ⟨env, log⟩ ≠ .ok (.procedure name) after := by
  intro resolved
  obtain ⟨binding, found, plain⟩ := Environment.lookup_parameter data parameter
  change reference ident ⟨env, log⟩ = _ at resolved
  rw [reference_eq found] at resolved
  cases binding with
  | procedure meant => cases plain
  | _ => cases resolved

theorem Machine.Proper.note {machine : Machine} (proper : machine.Proper) {event : Event}
    (shown : event.Proper) : Proper { machine with log := event :: machine.log } :=
  { proper with log := List.forall_mem_cons.mpr ⟨shown, proper.log⟩ }

def Guide.session : Guide Unit where
  machine _ m n := m = n ∧ m.Proper
  error _ := True
  procedure meant := ∃ name, meant.Proper name
  fit _ expr := expr.WellFormed ∧ expr.depth ≤ maxNesting
  inner := id
  call _ _ := ()
  rank _ := 0

theorem Guide.leads_session : session.Leads where
  settings meet := by rw [meet.1]; exact ⟨rfl, rfl, rfl⟩
  ordinary _ _ := trivial
  misnamed _ _ _ := trivial
  exhausted _ _ _ _ := trivial
  full _ _ _ := trivial
  ranked _ := Nat.le_refl _
  called _ _ := Nat.le_refl _
  operand fits member :=
    have inside := Expr.part_of_mem_evaluands member
    ⟨fits.1.part inside, Nat.le_trans inside.depth_le fits.2⟩
  body _ _ known _ _ _ := by
    obtain ⟨name, proper⟩ := known
    exact ⟨proper.body, Nat.le_trans proper.shallow (Nat.sub_le _ _)⟩
  lookup _ meet := by rw [meet.1]
  callee _ _ meet := by
    obtain ⟨rfl, proper⟩ := meet
    exact ⟨rfl, fun meant bound => ⟨_, proper.globals.procedures _ meant bound⟩⟩
  defineValue := by
    rintro _ head name body span m _ ⟨sound, -⟩ defining ⟨rfl, proper⟩ value
    have nameable : Nameable name.text := sound.names (.operand (by simp) .self)
    refine ⟨rfl, { proper with globals := proper.globals.insert nameable fun meant same => ?_ }⟩
    exact absurd same (Binding.ofValue_ne_procedure value meant)
  defineProcedure := by
    rintro _ head callee idents place body span m _ ⟨sound, shallow⟩ defining foreign ⟨rfl, proper⟩
    have target : Expr.Part (.form callee (idents.map .name) place)
        (.form head [.form callee (idents.map .name) place, body] span) :=
      .operand (by simp) .self
    have kept : body.Part (.form head [.form callee (idents.map .name) place, body] span) :=
      .operand (by simp) .self
    refine ⟨rfl, { proper with globals := proper.globals.insert (sound.callee target foreign) ?_ }⟩
    rintro _ ⟨⟩
    refine ⟨rfl, ?_, sound.part kept, Expr.depth_body shallow⟩
    intro parameter member
    obtain ⟨ident, among, rfl⟩ := List.mem_map.mp member
    exact sound.names (.trans (.operand (List.mem_map_of_mem among) .self) target)
  note := by
    rintro _ m _ event ⟨rfl, proper⟩ other _
    refine ⟨rfl, proper.note ?_⟩
    cases event with
    | evaluating expr env => exact absurd rfl (other expr env)
    | _ => trivial
  evaluating := by
    rintro _ expr m _ ⟨sound, -⟩ ⟨rfl, proper⟩
    exact ⟨rfl, proper.note ⟨sound, proper.stack⟩⟩
  enter := by
    rintro _ m _ ⟨rfl, proper⟩
    exact ⟨rfl, { proper with }⟩
  leave := by
    rintro _ m _ ⟨rfl, proper⟩
    exact ⟨rfl, { proper with }⟩
  push := by
    rintro _ m _ frame ⟨rfl, proper⟩ framed
    exact ⟨rfl, { proper with stack := proper.stack.push framed }⟩
  pop := by
    rintro _ frame m _ ⟨rfl, proper⟩
    exact ⟨rfl, { proper with stack := proper.stack.pop }⟩

namespace Environment

inductive Ran (env : Environment) (line : String) : Outcome Error → Prop
  | evaluated {tokens expr} (read : tokenize line = .ok tokens) (parsed : parse tokens = .ok expr) :
    Ran env line ⟨(env.evaluate expr).result.mapError .eval, (env.evaluate expr).env,
      tokens.map .token ++ (env.evaluate expr).log⟩
  | refused {err} {tokens : List Token} (early : ∀ failure, err ≠ .eval failure) :
    Ran env line ⟨.error err, env, tokens.map .token⟩

theorem runLine_ran (env : Environment) (line : String) : env.Ran line (env.runLine line) := by
  unfold runLine
  dsimp only
  split
  · exact .refused nofun
  · rename_i clean
    split
    · exact .refused nofun
    · rename_i parsed
      refine .evaluated ?_ parsed
      rw [tokenize, clean]

theorem evaluate_proper {env : Environment} {expr : Expr} (sound : expr.WellFormed)
    (shallow : expr.depth ≤ maxNesting) (proper : env.globals.Proper) (data : env.stack.Data) :
    (env.evaluate expr).env.globals.Proper ∧ ∀ event ∈ (env.evaluate expr).log, event.Proper := by
  have meet : Guide.session.machine () { env } { env } := ⟨rfl, proper, data, nofun⟩
  obtain ⟨-, ⟨-, ends⟩, -⟩ := Guide.leads_session.evaluate ⟨sound, shallow⟩ meet (Nat.zero_le _)
  exact ⟨ends.globals, fun event member => ends.log event (List.mem_reverse.mpr member)⟩

theorem runLine_proper {env : Environment} (proper : env.globals.Proper) (data : env.stack.Data)
    (line : String) : (env.runLine line).env.globals.Proper ∧
      ∀ event ∈ (env.runLine line).log, event.Proper := by
  have tokened (tokens : List Token) : ∀ event ∈ tokens.map Event.token, event.Proper := by
    intro event member
    obtain ⟨token, -, rfl⟩ := List.mem_map.mp member
    trivial
  have ran := runLine_ran env line
  generalize env.runLine line = outcome at ran ⊢
  cases ran with
  | refused => exact ⟨proper, tokened _⟩
  | evaluated read parsed =>
    obtain ⟨sound, shallow⟩ := parse_wellFormed read parsed
    obtain ⟨kept, shown⟩ := evaluate_proper sound shallow proper data
    exact ⟨kept, List.forall_mem_append.mpr ⟨tokened _, shown⟩⟩

theorem runLines_proper {env : Environment} (proper : env.globals.Proper) (data : env.stack.Data)
    (lines : List String) : (env.runLines lines).globals.Proper := by
  induction lines generalizing env with
  | nil => exact proper
  | cons line rest ih =>
    have kept : (env.runLine line).env.stack.Data := by rwa [runLine_env]
    exact ih (runLine_proper proper data line).1 kept

theorem evaluate_name {env : Environment} (more : env.room ≠ 0) {ident : Name} {binding : Binding}
    (bound : env.lookup ident.text = some binding) :
    (env.evaluate (.name ident)).result = .ok (binding.resolve ident.text) := by
  have referred : Rules.value Expr.evaluate (.name ident) ⟨env.enter, []⟩ =
      .ok (binding.resolve ident.text) ⟨env.enter, []⟩ := Rules.reference_eq bound
  rw [evaluate_rule more, referred]
  rfl

/-- With no room for evaluations nothing is defined. -/
theorem runLines_idle {env : Environment} (full : env.room = 0) (lines : List String) :
    env.runLines lines = env := by
  have idle (expr : Expr) : (env.evaluate expr).env = env := by rw [evaluate_refused full]
  have step (line : String) : (env.runLine line).env = env := by
    have ran := runLine_ran env line
    generalize env.runLine line = outcome at ran ⊢
    cases ran with
    | refused => rfl
    | evaluated => exact idle _
  induction lines with
  | nil => rfl
  | cons line rest ih =>
    change (env.runLine line).env.runLines rest = env
    rw [step, ih]

end Environment

theorem Nameable.tokenize {name : String} (nameable : Nameable name) :
    tokenize name = .ok [⟨.name, name, .columns 0 (byteLength name.toList)⟩] :=
  tokenize_alone (Lexer.first?_identifier nameable.identifier nameable.free)

namespace Environment

theorem runLine_name {env : Environment} (more : env.room ≠ 0) {name : String} {binding : Binding}
    (nameable : Nameable name) (bound : env.lookup name = some binding) :
    (env.runLine name).result = .ok (binding.resolve name) := by
  have parsed : parse [⟨.name, name, .columns 0 (byteLength name.toList)⟩] =
      .ok (.name ⟨name, .columns 0 (byteLength name.toList)⟩) := rfl
  rw [runLine_eq env nameable.tokenize, runTokens, parsed]
  dsimp only
  rw [evaluate_name more bound]
  rfl

theorem runLines_room {config : Config} {lines : List String} {name : String} {binding : Binding}
    (bound : ((withConfig config).runLines lines).globals.get? name = some binding) :
    ((withConfig config).runLines lines).room ≠ 0 := by
  rw [runLines_env]
  intro full
  rw [runLines_idle (show (withConfig config).room = 0 from full)] at bound
  cases bound

/-- A procedure is shown by its name alone as it is among all globals. -/
theorem runLine_procedure {env : Environment} (proper : env.globals.Proper)
    (outside : env.stack = {}) (more : env.room ≠ 0) {name : String} {meant : Procedure}
    (bound : env.globals.get? name = some (.procedure meant)) :
    ∃ value, (env.runLine name).result = .ok value ∧
      value.text = (Binding.procedure meant).text := by
  have found : env.lookup name = some (.procedure meant) := by
    unfold lookup top
    rw [outside]
    exact bound
  refine ⟨_, runLine_name more (proper.names name _ bound) found, ?_⟩
  change _ = "#<procedure:" ++ meant.name ++ ">"
  rw [(proper.procedures name meant bound).named]
  rfl

/-- A session binds identifiers alone, and procedures among them by their own names and with bodies
that the grammar allows. Evaluations are of well-formed expressions and pass no procedures, so that
no parameter is shown as one. A procedure is shown by its name alone as it is among all globals. -/
theorem runLines_invariant (config : Config) (lines : List String) :
    let env := (withConfig config).runLines lines
    env.globals.Proper ∧
    (∀ line expr inner, .evaluating expr inner ∈ (env.runLine line).log →
      inner.stack.Data ∧
      (∀ head span, expr = .form head [] span → head.text ≠ "-" ∧ head.text ≠ "/") ∧
      ∀ ident, expr = .name ident → (inner.top.lookup ident.text).isSome = true →
        ∀ self log name after, Rules.value self expr ⟨inner, log⟩ ≠ .ok (.procedure name) after) ∧
    (∀ self callee operands m bindings after,
      Rules.arguments self callee operands m = .ok bindings after →
        ∀ binding ∈ bindings, binding.isData = true) ∧
    ∀ name meant, env.globals.get? name = some (.procedure meant) →
      ∃ value, (env.runLine name).result = .ok value ∧ value.text = (Binding.procedure meant).text := by
  intro env
  have outside : env.stack = {} := congrArg Environment.stack (runLines_env _ lines)
  have data : env.stack.Data := outside ▸ CallStack.data_empty
  have proper : env.globals.Proper :=
    runLines_proper Globals.proper_empty CallStack.data_empty lines
  refine ⟨proper, ?_, fun _ _ _ _ _ _ => Rules.arguments_isData, ?_⟩
  · intro line expr inner member
    obtain ⟨sound, framed⟩ := (runLine_proper proper data line).2 _ member
    refine ⟨framed, ?_, ?_⟩
    · rintro head span rfl
      have filled := sound.filled .self
      exact ⟨fun minus => filled (.inl minus) rfl, fun divide => filled (.inr divide) rfl⟩
    · rintro ident rfl parameter self log name after
      exact Rules.value_parameter framed parameter
  · intro name meant bound
    exact runLine_procedure proper outside (runLines_room bound) bound

/-- A procedure that is defined by a call of another one. -/
theorem runLines_nested :
    let env := (withConfig {}).runLines ["(define (f) (define (g) f))", "(f)"]
    ∃ meant value, env.globals.get? "g" = some (.procedure meant) ∧ meant.Proper "g" ∧
      (env.runLine "g").result = .ok value ∧ value.text = "#<procedure:g>" := by
  intro env
  have read : tokenize "(define (f) (define (g) f))" = .ok [
      ⟨.leftParen, "(", .columns 0 1⟩, ⟨.operator .define, "define", .columns 1 7⟩,
      ⟨.leftParen, "(", .columns 8 9⟩, ⟨.name, "f", .columns 9 10⟩,
      ⟨.rightParen, ")", .columns 10 11⟩, ⟨.leftParen, "(", .columns 12 13⟩,
      ⟨.operator .define, "define", .columns 13 19⟩, ⟨.leftParen, "(", .columns 20 21⟩,
      ⟨.name, "g", .columns 21 22⟩, ⟨.rightParen, ")", .columns 22 23⟩,
      ⟨.name, "f", .columns 24 25⟩, ⟨.rightParen, ")", .columns 25 26⟩,
      ⟨.rightParen, ")", .columns 26 27⟩] := by decide +kernel
  have call : tokenize "(f)" = .ok [⟨.leftParen, "(", .columns 0 1⟩, ⟨.name, "f", .columns 1 2⟩,
      ⟨.rightParen, ")", .columns 2 3⟩] := by decide +kernel
  have bound : env.globals.get? "g" =
      some (.procedure ⟨"g", [], .name ⟨"f", .columns 24 25⟩⟩) := by
    change (((withConfig {}).runLine _).env.runLine _).env.globals.get? "g" = _
    rw [runLine_eq _ read, runLine_eq _ call]
    rfl
  obtain ⟨proper, -, -, shown⟩ := runLines_invariant {} ["(define (f) (define (g) f))", "(f)"]
  obtain ⟨value, result, text⟩ := shown "g" _ bound
  exact ⟨_, value, bound, proper.procedures "g" _ bound, result, text⟩

end Environment

end LineLisp
