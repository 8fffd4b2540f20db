import LineLisp.Proofs.Lexer.Spelling
import LineLisp.Proofs.Parser.Relocation
import LineLisp.Proofs.Simulation.Evaluation

/-! The layout of lines.
Where a token stands in its line makes no difference to what the line does, and
neither does where the procedures that it calls were defined. -/
namespace LineLisp

open Run

variable {move : Span → Span}

namespace Simulation

def relocated (move : Span → Span) : Simulation Unit where
  toLoss := .of fun _ => False
  machine _ m n := n.env = m.env.relocate move
  call _ _ := ()
  error err other := other = err.relocate move
  place first second := second = move first
  procedure meant peer := peer = meant.relocate move

theorem binds_relocate (binding : Binding) :
    (relocated move).Binds binding (binding.relocate move) := by
  cases binding with
  | number value => exact .number value
  | boolean value => exact .boolean value
  | procedure meant => exact .procedure rfl
  | void => exact .void

theorem rel_relocate (found : Option Binding) :
    Option.Rel (relocated move).Binds found (found.map (·.relocate move)) := by
  cases found with
  | none => exact .none
  | some binding => exact .some (binds_relocate binding)

theorem sound_relocated (move : Span → Span) : (relocated move).Sound move where
  fatal same := by rw [same, EvalError.isFatal_relocate]
  ordinary := by
    intro err first second _ _ place
    rw [place]
    exact (EvalError.relocate_relocate move _ err).symm
  naming place name := by rw [place]; exact ⟨rfl, rfl⟩
  signature same := by rw [same]; exact ⟨rfl, rfl⟩
  lookup meet name := by rw [meet, Environment.lookup_relocate]; exact rel_relocate _
  global := by
    intro level m n meet name
    rw [meet]
    change Option.Rel _ _ ((m.env.globals.relocate move).get? name)
    rw [Globals.get?_relocate]
    exact rel_relocate _
  define := by
    intro level m n meet name binding other binds
    have moved : other = binding.relocate move := by
      cases binds with
      | procedure stands => exact congrArg Binding.procedure stands
      | number | boolean | void => rfl
    rw [meet, moved]
    exact (Environment.define_relocate move m.env name binding).symm
  note meet _ _ := meet
  recover callee err other stands _ := by
    refine follows_recover (fun meet => ?_) callee stands fun m n meet => meet
    rw [meet]
    rfl
  placed _ := rfl
  procedure_iff := Iff.rfl
  evaluating meet _ := meet
  calling meet _ := meet
  enter meet := by rw [meet]; rfl
  leave meet := by rw [meet]; rfl
  push meet frame := by rw [meet]; rfl
  pop := by
    intro level frame m n meet
    rw [meet]
    exact (Environment.pop_relocate move m.env).symm
  full meet := by rw [meet]; rfl
  exhausted meet full := .inl (by rw [meet]; exact ⟨full, rfl⟩)
  free meet free := by rw [meet]; exact free

end Simulation

namespace Environment

theorem evaluate_relocate (move : Span → Span) (env : Environment) (expr : Expr) :
    ((env.relocate move).evaluate (expr.relocate move)).result =
        (env.evaluate expr).result.mapError (·.relocate move) ∧
      ((env.relocate move).evaluate (expr.relocate move)).env =
        (env.evaluate expr).env.relocate move := by
  have meet : (Simulation.relocated move).machine () { env } { env := env.relocate move } := rfl
  have ends := (Simulation.sound_relocated move).evaluate meet (Nat.le_refl _)
    (fun less => absurd less (Nat.lt_irrefl _)) expr
  rw [evaluate_eq, evaluate_eq, env_outcome, env_outcome]
  rcases ends.outcome (·.relocate move) id with told | ⟨_, _, lost⟩
  · exact told
  · exact absurd lost id

def runTokens (env : Environment) (tokens : List Token) : Outcome Error :=
  match parse tokens with
  | .error err => ⟨.error (.parse err), env, tokens.map .token⟩
  | .ok expr =>
    let outcome := env.evaluate expr
    ⟨outcome.result.mapError .eval, outcome.env, tokens.map .token ++ outcome.log⟩

theorem runLine_eq (env : Environment) {line : String} {tokens : List Token}
    (read : tokenize line = .ok tokens) : env.runLine line = env.runTokens tokens := by
  have scanned := tokenize_eq_ok.mp read
  unfold runLine runTokens
  generalize (Lexer.ofLine line).scan = scan at scanned ⊢
  subst scanned
  rfl

theorem runLine_of_parse (env : Environment) {line : String} {tokens : List Token} {expr : Expr}
    (read : tokenize line = .ok tokens) (parsed : parse tokens = .ok expr) :
    env.runLine line = ⟨(env.evaluate expr).result.mapError .eval, (env.evaluate expr).env,
      tokens.map .token ++ (env.evaluate expr).log⟩ := by
  rw [runLine_eq env read, runTokens, parsed]

theorem runTokens_relocate (steady : Span.Steady move) (env : Environment) (tokens : List Token) :
    ((env.relocate move).runTokens (tokens.map (·.relocate move))).result =
        (env.runTokens tokens).result.mapError (·.relocate move) ∧
      ((env.relocate move).runTokens (tokens.map (·.relocate move))).env =
        (env.runTokens tokens).env.relocate move := by
  unfold runTokens
  rw [parse_relocate steady]
  cases parse tokens with
  | error err => exact ⟨rfl, rfl⟩
  | ok expr =>
    obtain ⟨result, ends⟩ := evaluate_relocate move env expr
    refine ⟨?_, ends⟩
    change Except.mapError Error.eval _ = Except.mapError _ (Except.mapError Error.eval _)
    rw [result]
    cases (env.evaluate expr).result <;> rfl

end Environment

def Span.nowhere (_ : Span) : Span :=
  .unknown

theorem Span.steady_nowhere : Steady nowhere :=
  ⟨rfl, fun _ _ => rfl⟩

def Error.unplaced (err : Error) : Error :=
  err.relocate Span.nowhere

def Environment.unplaced (env : Environment) : Environment :=
  env.relocate Span.nowhere

def SameTokens (line peer : String) : Prop :=
  ∃ tokens others, tokenize line = .ok tokens ∧ tokenize peer = .ok others ∧
    Token.sameAll tokens others = true

theorem Token.unplaced_eq {tokens peers : List Token} (alone : ∀ token ∈ tokens, Lexer.Alone token)
    (others : ∀ token ∈ peers, Lexer.Alone token) (same : sameAll tokens peers = true) :
    tokens.map (·.relocate Span.nowhere) = peers.map (·.relocate Span.nowhere) := by
  induction tokens generalizing peers with
  | nil =>
    cases peers with
    | nil => rfl
    | cons => cases same
  | cons token rest ih =>
    cases peers with
    | nil => cases same
    | cons peer more =>
      obtain ⟨first, later⟩ := Bool.and_eq_true_iff.mp same
      have lexeme : token.lexeme = peer.lexeme := by
        simpa using (Bool.and_eq_true_iff.mp first).2
      have kind := (alone token (by simp)).kind_eq (others peer (by simp)) lexeme
      have told : token.relocate Span.nowhere = peer.relocate Span.nowhere := by
        unfold relocate
        rw [kind, lexeme]
        rfl
      rw [List.map_cons, List.map_cons, told, ih (fun token member => alone token (by simp [member]))
        (fun token member => others token (by simp [member])) later]

namespace Environment

def results (env : Environment) : List String → List (Except Error Value)
  | [] => []
  | line :: rest => (env.runLine line).result :: (env.runLine line).env.results rest

theorem runLine_unplaced {env other : Environment} (alike : env.unplaced = other.unplaced)
    {line peer : String} (same : SameTokens line peer) :
    (env.runLine line).result.mapError Error.unplaced =
        (other.runLine peer).result.mapError Error.unplaced ∧
      (env.runLine line).env.unplaced = (other.runLine peer).env.unplaced := by
  obtain ⟨tokens, others, read, reread, same⟩ := same
  have unplaced := Token.unplaced_eq (tokenize_iff.mp read).alone (tokenize_iff.mp reread).alone same
  obtain ⟨first, left⟩ := runTokens_relocate Span.steady_nowhere env tokens
  obtain ⟨second, right⟩ := runTokens_relocate Span.steady_nowhere other others
  change env.relocate Span.nowhere = other.relocate Span.nowhere at alike
  rw [runLine_eq env read, runLine_eq other reread]
  constructor
  · refine first.symm.trans ?_
    rw [alike, unplaced]
    exact second
  · refine left.symm.trans ?_
    rw [alike, unplaced]
    exact right

/-- Lines do the same wherever their tokens stand, and so do sessions of such lines. -/
theorem runLines_unplaced {env other : Environment} (alike : env.unplaced = other.unplaced) :
    (∀ {line peer}, SameTokens line peer →
      (env.runLine line).result.mapError Error.unplaced =
          (other.runLine peer).result.mapError Error.unplaced ∧
        (env.runLine line).env.unplaced = (other.runLine peer).env.unplaced) ∧
    ∀ {lines peers}, List.Forall₂ SameTokens lines peers →
      (env.results lines).map (·.mapError Error.unplaced) =
          (other.results peers).map (·.mapError Error.unplaced) ∧
        (env.runLines lines).unplaced = (other.runLines peers).unplaced := by
  refine ⟨runLine_unplaced alike, fun same => ?_⟩
  induction same generalizing env other with
  | nil => exact ⟨rfl, alike⟩
  | cons first _ ih =>
    obtain ⟨result, after⟩ := runLine_unplaced alike first
    obtain ⟨later, ends⟩ := ih after
    exact ⟨congrArg₂ List.cons result later, ends⟩

def definedAt (place : Span) : Environment :=
  (withConfig {}).define "f" (.procedure ⟨"f", [], .name ⟨"g", place⟩⟩)

theorem definedAt_unplaced :
    let env := definedAt (.columns 12 13)
    let other := definedAt (.columns 40 41)
    env.unplaced = other.unplaced ∧ SameTokens "(f)" " (\tf )" ∧
      (env.runLine "(f)").result.mapError Error.unplaced =
        (other.runLine " (\tf )").result.mapError Error.unplaced ∧
      (env.runLines ["(f)", "f"]).unplaced = (other.runLines [" (\tf )", "f "]).unplaced ∧
      (env.runLine "(f)").result = .error (.eval (.undefined "g" (.columns 12 13))) ∧
      (other.runLine " (\tf )").result = .error (.eval (.undefined "g" (.columns 40 41))) := by
  have read : tokenize "(f)" = .ok [⟨.leftParen, "(", .columns 0 1⟩, ⟨.name, "f", .columns 1 2⟩,
      ⟨.rightParen, ")", .columns 2 3⟩] := by decide +kernel
  have reread : tokenize " (\tf )" = .ok [⟨.leftParen, "(", .columns 1 2⟩,
      ⟨.name, "f", .columns 3 4⟩, ⟨.rightParen, ")", .columns 5 6⟩] := by decide +kernel
  have call : SameTokens "(f)" " (\tf )" := ⟨_, _, read, reread, by decide⟩
  have name : SameTokens "f" "f " := ⟨[⟨.name, "f", .columns 0 1⟩], [⟨.name, "f", .columns 0 1⟩],
    by decide +kernel, by decide +kernel, by decide⟩
  have alike : (definedAt (.columns 12 13)).unplaced = (definedAt (.columns 40 41)).unplaced := rfl
  obtain ⟨single, session⟩ := runLines_unplaced alike
  refine ⟨alike, call, (single call).1, (session (.cons call (.cons name .nil))).2, ?_, ?_⟩
  · rw [runLine_eq _ read]
    rfl
  · rw [runLine_eq _ reread]
    rfl

end Environment

end LineLisp
