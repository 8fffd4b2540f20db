import LineLisp.Proofs.Definitions
import LineLisp.Proofs.Depth
import LineLisp.Proofs.Parser.Spans

/-! The places that errors name.
Evaluation passes spans on and makes none. So it could not tell if a span that
stands nowhere in what it is given were another one, and no error is at such a span:
the span is borne by a part of the expression or of a procedure bound at the start. -/
namespace LineLisp

variable {move : Span → Span}

namespace EvalError

def span? : EvalError → Option Span
  | undefined _ span | typeMismatch _ _ span | arityMismatch _ _ _ span | divideByZero span
  | notAProcedure _ span | malformedDefine _ span | malformedConditional _ span => some span
  | stackExhausted _ | nestingTooDeep _ => none

theorem span?_relocate (move : Span → Span) (err : EvalError) :
    (err.relocate move).span? = err.span?.map move := by
  cases err <;> rfl

end EvalError

theorem Name.relocate_eq {name : Name} (fixed : move name.span = name.span) :
    name.relocate move = name := by
  unfold Name.relocate
  rw [fixed]

namespace Expr

inductive Bears (span : Span) : Expr → Prop
  | whole {expr : Expr} (own : expr.span = span) : Bears span expr
  | head {head : Name} {operands seat} (own : head.span = span) :
    Bears span (.form head operands seat)

def Spans (P : Span → Prop) (expr : Expr) : Prop :=
  ∀ part : Expr, part.Part expr → ∀ span, part.Bears span → P span

theorem Spans.operand {P : Span → Prop} {head : Name} {operands : List Expr} {span : Span}
    (all : (form head operands span).Spans P) {operand : Expr} (member : operand ∈ operands) :
    operand.Spans P :=
  fun part inside => all part (.operand member inside)

mutual

theorem relocate_eq : ∀ {expr : Expr}, expr.Spans (fun span => move span = span) →
    expr.relocate move = expr
  | number x _, fixed => congrArg (number x) (fixed _ .self _ (.whole rfl))
  | boolean b _, fixed => congrArg (boolean b) (fixed _ .self _ (.whole rfl))
  | name _, fixed => congrArg name (Name.relocate_eq (fixed _ .self _ (.whole rfl)))
  | form head operands span, fixed => by
    have own : move span = span := fixed _ .self _ (.whole rfl)
    rw [relocate, Name.relocate_eq (fixed _ .self _ (.head rfl)), own,
      relocateAll_eq fun _ => fixed.operand]

theorem relocateAll_eq : ∀ {operands : List Expr},
    (∀ operand ∈ operands, operand.Spans fun span => move span = span) →
      relocateAll move operands = operands
  | [], _ => rfl
  | _ :: _, fixed => by
    obtain ⟨first, others⟩ := List.forall_mem_cons.mp fixed
    rw [relocateAll, relocate_eq first, relocateAll_eq others]

end

end Expr

theorem Binding.relocate_data {binding : Binding} (data : binding.isData = true) :
    binding.relocate move = binding := by
  cases binding with
  | procedure meant => cases data
  | number | boolean | void => rfl

theorem Entries.relocate_data {entries : Entries}
    (data : ∀ entry ∈ entries, entry.2.isData = true) : entries.relocate move = entries := by
  have same : ∀ entry ∈ entries, (entry.1, entry.2.relocate move) = entry := by
    intro entry member
    rw [Binding.relocate_data (data entry member)]
  exact (List.map_congr_left same).trans (List.map_id _)

theorem Binding.resolve_relocate (binding : Binding) (name : String) :
    (binding.relocate move).resolve name = binding.resolve name := by
  cases binding <;> rfl

def Environment.reframe (move : Span → Span) (env : Environment) : Environment :=
  { env with stack := env.stack.relocate move }

theorem Environment.lookup_reframe (env : Environment) (name : String) :
    ((env.reframe move).lookup name).map (·.resolve name) =
      (env.lookup name).map (·.resolve name) := by
  have top : (env.reframe move).top = Entries.relocate move env.top := env.top_relocate move
  unfold lookup
  rw [top, Entries.lookup_relocate]
  cases env.top.lookup name with
  | none => rfl
  | some binding => exact congrArg some (binding.resolve_relocate name)

theorem Environment.relocate_of_globals {env : Environment}
    (fixed : env.globals.relocate move = env.globals) : env.relocate move = env.reframe move := by
  unfold relocate reframe
  rw [fixed]

def Guide.reframed (move : Span → Span) : Guide Unit where
  machine _ m n := n.env = m.env.reframe move
  error _ := True
  procedure _ := True
  fit _ _ := True
  inner := id
  call _ _ := ()
  rank _ := 0

theorem Guide.leads_reframed (move : Span → Span) : (reframed move).Leads where
  settings meet := by rw [meet]; exact ⟨rfl, rfl, rfl⟩
  ordinary _ _ := trivial
  misnamed _ _ _ := trivial
  exhausted _ _ _ _ := trivial
  full _ _ _ := trivial
  ranked _ := Nat.le_refl _
  called _ _ := Nat.le_refl _
  operand _ _ := trivial
  body _ _ _ _ _ _ := trivial
  lookup _ meet := by rw [meet, Environment.lookup_reframe]
  callee _ _ meet := by rw [meet]; exact ⟨rfl, fun _ _ => trivial⟩
  defineValue _ _ meet _ := by rw [meet]; rfl
  defineProcedure _ _ _ meet := by rw [meet]; rfl
  note meet _ _ := meet
  evaluating _ meet := meet
  enter meet := by rw [meet]; rfl
  leave meet := by rw [meet]; rfl
  push := by
    rintro _ m n frame meet data
    have same : Entries.relocate move frame = frame := Entries.relocate_data data
    have pushed : (m.env.stack.push frame).relocate move = (m.env.stack.relocate move).push frame :=
      CallStack.eq_of_frames (congrArg (· :: _) same)
    change n.env.push frame = { m.env with stack := (m.env.stack.push frame).relocate move }
    rw [meet, pushed]
    rfl
  pop := by
    rintro _ frame m n meet
    change n.env.pop = { m.env with stack := m.env.stack.pop.relocate move }
    rw [meet, CallStack.pop_relocate]
    rfl

namespace Environment

def Bears (env : Environment) (expr : Expr) (span : Span) : Prop :=
  ∃ part, env.Source expr part ∧ part.Bears span

structure Names (env : Environment) (expr : Expr) (err : EvalError) : Prop where
  undefined : ∀ name span, err = .undefined name span → env.Source expr (.name ⟨name, span⟩) ∨
    ∃ operands seat, env.Source expr (.form ⟨name, span⟩ operands seat)
  foreign : ∀ name span, err = .notAProcedure name span →
    ∃ operands seat, env.Source expr (.form ⟨name, span⟩ operands seat)

theorem Names.of_ordinary {env : Environment} {expr : Expr} {err : EvalError}
    (other : err.isNaming = false) : env.Names expr err := by
  constructor <;>
  · rintro name span rfl
    cases other

theorem Names.of_misnames {env inner : Environment} {expr part : Expr} {err : EvalError}
    (source : env.Source expr part) (misnames : part.Misnames inner err) : env.Names expr err := by
  cases misnames with
  | reference => exact ⟨by rintro _ _ ⟨⟩; exact .inl source, nofun⟩
  | callee => exact ⟨by rintro _ _ ⟨⟩; exact .inr ⟨_, _, source⟩, nofun⟩
  | other => exact ⟨nofun, by rintro _ _ ⟨⟩; exact ⟨_, _, source⟩⟩

end Environment

def Guide.names (start : Environment) (expr : Expr) : Guide Unit :=
  { sources start expr with error := start.Names expr }

theorem Guide.leads_names (start : Environment) (expr : Expr) : (names start expr).Leads :=
  { leads_sources start expr with
    ordinary := fun _ other => .of_ordinary other
    misnamed := fun source _ misnames => .of_misnames source misnames
    exhausted := fun _ _ _ _ => .of_ordinary rfl
    full := fun _ _ _ => .of_ordinary rfl
    note := fun meet _ _ => ⟨by rw [meet.1], meet.2⟩ }

namespace Environment

variable {env : Environment} {expr : Expr} {err : EvalError}

theorem evaluate_sources (env : Environment) (expr : Expr) :
    env.Kept expr (env.evaluate expr).env.globals ∧
      ∀ err, (env.evaluate expr).result = .error err → env.Names expr err := by
  have meet : (Guide.names env expr).machine () { env } { env } :=
    ⟨rfl, fun _ _ => rfl, fun _ => id, fun _ _ => .inl⟩
  obtain ⟨-, ⟨-, kept⟩, named⟩ := (Guide.leads_names env expr).evaluate (.expression .self) meet
    (Nat.zero_le _)
  exact ⟨kept, named⟩

/-- A relocation that moves no span of what is evaluated moves no error. -/
theorem evaluate_fixed (fixed : ∀ span, env.Bears expr span → move span = span)
    (failed : (env.evaluate expr).result = .error err) : err.relocate move = err := by
  have whole : expr.relocate move = expr :=
    Expr.relocate_eq fun part inside span bears => fixed span ⟨part, .expression inside, bears⟩
  have globals : env.globals.relocate move = env.globals := by
    refine Globals.eq_of_get? fun name => ?_
    rw [Globals.get?_relocate]
    cases bound : env.globals.get? name with
    | none => rfl
    | some binding =>
      cases binding with
      | number | boolean | void => rfl
      | procedure meant =>
        have body : meant.body.relocate move = meant.body := Expr.relocate_eq
          fun part inside span bears => fixed span ⟨part, .body bound inside, bears⟩
        simp only [Option.map_some, Binding.relocate, Procedure.relocate, body]
  have meet : (Guide.reframed move).machine () { env } { env := env.reframe move } := rfl
  have reframed : (env.evaluate expr).result = ((env.reframe move).evaluate expr).result :=
    ((Guide.leads_reframed move).evaluate trivial meet (Nat.zero_le _)).1
  have moved := (evaluate_relocate move env expr).1
  rw [relocate_of_globals globals, whole, ← reframed, failed] at moved
  exact (Except.error.inj moved).symm

theorem evaluate_bears (failed : (env.evaluate expr).result = .error err) {span : Span}
    (place : err.span? = some span) : env.Bears expr span := by
  by_contra absent
  obtain ⟨other, apart⟩ : ∃ other, other ≠ span := by
    cases span with
    | unknown => exact ⟨.columns 0 0, nofun⟩
    | columns => exact ⟨.unknown, nofun⟩
  have same : err.relocate (fun place => if place = span then other else place) = err := by
    refine evaluate_fixed (fun place bears => if_neg ?_) failed
    rintro rfl
    exact absent bears
  have moved := err.span?_relocate fun place => if place = span then other else place
  rw [same, place, Option.map_some, if_pos rfl] at moved
  exact apart (Option.some.inj moved).symm

end Environment

theorem parse_spans {line : String} {tokens : List Token} {expr : Expr}
    (read : tokenize line = .ok tokens) (parsed : parse tokens = .ok expr) :
    expr.Spans Span.Filled := by
  obtain ⟨derivation, valid, rfl, rfl, shallow⟩ := parse_sound parsed
  intro part inside span bears
  cases bears with
  | whole own =>
    obtain ⟨sub, fits, rfl, among⟩ := valid.of_part inside
    obtain ⟨first, past, stands⟩ := fits.stands (Nat.le_trans inside.depth_le shallow) read among
    rw [← own, stands.span]
    exact stands.filled
  | head own =>
    obtain ⟨token, member, -, rfl⟩ := valid.head_token inside
    rw [← own]
    exact (cover_of_tokenize read).filled token member

def Globals.Placed (globals : Globals) : Prop :=
  ∀ name meant, globals.get? name = some (.procedure meant) → meant.body.Spans Span.Filled

theorem Globals.placed_empty : empty.Placed := by
  intro name meant bound
  cases bound

namespace Environment

variable {env : Environment} {expr : Expr} {err : EvalError}

theorem Source.spans {P : Span → Prop} {part : Expr} (source : env.Source expr part)
    (own : expr.Spans P)
    (bodies : ∀ name meant, env.globals.get? name = some (.procedure meant) → meant.body.Spans P) :
    part.Spans P := by
  cases source with
  | expression inside => exact fun inner within => own inner (within.trans inside)
  | body bound inside => exact fun inner within => bodies _ _ bound inner (within.trans inside)

theorem runLine_placed (placed : env.globals.Placed) (line : String) :
    (env.runLine line).env.globals.Placed := by
  have ran := runLine_ran env line
  generalize env.runLine line = outcome at ran ⊢
  cases ran with
  | refused => exact placed
  | @evaluated tokens expr read parsed =>
    intro name meant bound
    exact ((evaluate_sources env expr).1.body bound).spans (parse_spans read parsed) placed

theorem runLines_placed (placed : env.globals.Placed) (lines : List String) :
    (env.runLines lines).globals.Placed := by
  induction lines generalizing env with
  | nil => exact placed
  | cons line rest ih => exact ih (runLine_placed placed line)

/-- An error is at a place in what is evaluated, or in a procedure that was bound before, and a name
that it is about is found there; so in a session of lines the columns of errors are known. -/
theorem evaluate_places :
    (∀ (env : Environment) (expr : Expr) (err : EvalError),
      (env.evaluate expr).result = .error err →
        (∀ span, err.span? = some span → env.Bears expr span) ∧ env.Names expr err) ∧
    ∀ (config : Config) (lines : List String) (line : String) (err : EvalError) (span : Span),
      (((withConfig config).runLines lines).runLine line).result = .error (.eval err) →
        err.span? = some span → span.Filled := by
  refine ⟨fun env expr err failed => ?_, fun config lines line err span failed place => ?_⟩
  · exact ⟨fun span => evaluate_bears failed, (evaluate_sources env expr).2 err failed⟩
  · obtain ⟨tokens, expr, read, parsed, failed⟩ := runLine_failed failed
    have placed : ((withConfig config).runLines lines).globals.Placed :=
      runLines_placed Globals.placed_empty lines
    obtain ⟨part, source, bears⟩ := evaluate_bears failed place
    exact source.spans (parse_spans read parsed) placed part .self span bears

/-- An error in a procedure that an earlier line defined. -/
theorem evaluate_places_earlier :
    let env := (withConfig {}).runLines ["(define (f x) (not y))"]
    let call := Expr.form ⟨"f", .columns 1 2⟩ [.boolean true (.columns 3 7)] (.columns 0 8)
    let err := EvalError.undefined "y" (.columns 19 20)
    (env.evaluate call).result = .error err ∧ env.Bears call (.columns 19 20) ∧
      env.Names call err ∧ (env.runLine "(f true)").result = .error (.eval err) ∧
      (Span.columns 19 20).Filled := by
  intro env call err
  have define : tokenize "(define (f x) (not y))" = .ok [
      ⟨.leftParen, "(", .columns 0 1⟩, ⟨.operator .define, "define", .columns 1 7⟩,
      ⟨.leftParen, "(", .columns 8 9⟩, ⟨.name, "f", .columns 9 10⟩, ⟨.name, "x", .columns 11 12⟩,
      ⟨.rightParen, ")", .columns 12 13⟩, ⟨.leftParen, "(", .columns 14 15⟩,
      ⟨.operator .not, "not", .columns 15 18⟩, ⟨.name, "y", .columns 19 20⟩,
      ⟨.rightParen, ")", .columns 20 21⟩, ⟨.rightParen, ")", .columns 21 22⟩] := by decide +kernel
  have read : tokenize "(f true)" = .ok [⟨.leftParen, "(", .columns 0 1⟩,
      ⟨.name, "f", .columns 1 2⟩, ⟨.boolean true, "true", .columns 3 7⟩,
      ⟨.rightParen, ")", .columns 7 8⟩] := by decide +kernel
  have failed : (env.evaluate call).result = .error err := by
    change (((withConfig {}).runLine _).env.evaluate call).result = _
    rw [runLine_eq _ define]
    rfl
  have result : (env.runLine "(f true)").result = .error (.eval err) := by
    change (((withConfig {}).runLine _).env.runLine _).result = _
    rw [runLine_eq _ define, runLine_eq _ read]
    rfl
  obtain ⟨place, named⟩ := evaluate_places.1 env call err failed
  exact ⟨failed, place _ rfl, named, result, evaluate_places.2 {} _ _ err _ result rfl⟩

end Environment

end LineLisp
