import LineLisp.Console
import LineLisp.Proofs.Layout
import LineLisp.Proofs.Lexer.Spacing
import LineLisp.Proofs.Log
import LineLisp.Proofs.Semantics.Adequacy
import LineLisp.Proofs.Text.Lines

/-! Scripts and dialogues.
Both are told by their stages, which are the lines with the environments that they
meet: what is printed for a line, and whether the run ends there, depends on
nothing else. A run serves the stages up to the first fatal one. -/
namespace LineLisp.Console

structure Stage where
  env : Environment
  line : String

namespace Stage

def fatal? (stage : Stage) : Option Error :=
  match (stage.env.runLine stage.line).result with
  | .ok _ => none
  | .error err => if err.isFatal then some err else none

def output (stage : Stage) : List String :=
  (reply stage.env stage.line).output

def shown (stage : Stage) : String :=
  String.join (stage.output.map Transcript.lineText)

end Stage

def stages (env : Environment) : List String → List Stage
  | [] => []
  | line :: rest => ⟨env, line⟩ :: stages (env.runLine line).env rest

inductive Served : List Stage → List Stage → Option Error → Prop
  | all {stages : List Stage} (calm : ∀ stage ∈ stages, stage.fatal? = none) :
    Served stages stages none
  | stopped (before later : List Stage) {last : Stage} {err : Error}
    (calm : ∀ stage ∈ before, stage.fatal? = none) (fatal : last.fatal? = some err) :
    Served (before ++ last :: later) (before ++ [last]) (some err)

namespace Served

variable {stages served : List Stage} {failure : Option Error}

theorem cons {stage : Stage} (calm : stage.fatal? = none) (further : Served stages served failure) :
    Served (stage :: stages) (stage :: served) failure := by
  cases further with
  | all others => exact .all (List.forall_mem_cons.mpr ⟨calm, others⟩)
  | stopped before later others fatal =>
    exact .stopped (stage :: before) later (List.forall_mem_cons.mpr ⟨calm, others⟩) fatal

theorem isSome_iff (runs : Served stages served failure) :
    failure.isSome = true ↔ ∃ stage ∈ stages, stage.fatal?.isSome = true := by
  cases runs with
  | all calm =>
    refine ⟨nofun, ?_⟩
    rintro ⟨stage, member, fatal⟩
    rw [calm stage member] at fatal
    cases fatal
  | stopped before later calm fatal =>
    refine ⟨fun _ => ⟨_, List.mem_append_right _ List.mem_cons_self, ?_⟩, fun _ => rfl⟩
    rw [fatal]
    rfl

end Served

theorem runLine_blank {env : Environment} {line : String} (blank : Text.isBlankLine line = true) :
    env.runLine line = ⟨.error (.parse .emptyExpression), env, []⟩ := by
  rw [Environment.runLine_eq env ((tokenize_eq_nil_iff line).mpr blank)]
  rfl

theorem reply_env (env : Environment) (line : String) :
    (reply env line).env = (env.runLine line).env := by
  unfold reply
  split
  · rename_i blank
    rw [runLine_blank blank]
  · dsimp only
    split
    · rfl
    · split <;> rfl

theorem reply_failure (stage : Stage) :
    (reply stage.env stage.line).failure = stage.fatal?.map Error.message := by
  obtain ⟨env, line⟩ := stage
  unfold reply Stage.fatal?
  dsimp only
  split
  · rename_i blank
    rw [runLine_blank blank]
    rfl
  · cases (env.runLine line).result with
    | ok value => rfl
    | error err =>
      dsimp only
      split <;> rfl

/-- A line that calls a procedure which only calls itself is fatal. -/
theorem fatal_call {env : Environment} {place seat : Span} (bound : env.globals.get? "f" =
    some (.procedure ⟨"f", [], .form ⟨"f", place⟩ [] seat⟩)) :
    (Stage.mk env "(f)").fatal?.isSome = true := by
  obtain ⟨tokens, read, parsed⟩ : ∃ tokens, tokenize "(f)" = .ok tokens ∧
      parse tokens = .ok (.form ⟨"f", .columns 1 2⟩ [] (.columns 0 3)) :=
    ⟨[⟨.leftParen, "(", .columns 0 1⟩, ⟨.name, "f", .columns 1 2⟩,
      ⟨.rightParen, ")", .columns 2 3⟩], by decide +kernel, rfl⟩
  obtain ⟨err, failed, limit⟩ :=
    Environment.evaluate_endless rfl rfl rfl bound (.columns 1 2) (.columns 0 3)
  have fatal : (Error.eval err).isFatal = true := limit
  unfold Stage.fatal?
  dsimp only
  rw [env.runLine_of_parse read parsed]
  dsimp only
  rw [failed]
  simp [Except.mapError, fatal]

theorem fatal_endless :
    (Stage.mk (environment.runLine "(define (f) (f))").env "(f)").fatal?.isSome = true := by
  obtain ⟨tokens, read, parsed⟩ : ∃ tokens, tokenize "(define (f) (f))" = .ok tokens ∧
      parse tokens = .ok (.form ⟨"define", .columns 1 7⟩ [.form ⟨"f", .columns 9 10⟩ []
        (.columns 8 11), .form ⟨"f", .columns 13 14⟩ [] (.columns 12 15)] (.columns 0 16)) :=
    ⟨[⟨.leftParen, "(", .columns 0 1⟩, ⟨.operator .define, "define", .columns 1 7⟩,
      ⟨.leftParen, "(", .columns 8 9⟩, ⟨.name, "f", .columns 9 10⟩,
      ⟨.rightParen, ")", .columns 10 11⟩, ⟨.leftParen, "(", .columns 12 13⟩,
      ⟨.name, "f", .columns 13 14⟩, ⟨.rightParen, ")", .columns 14 15⟩,
      ⟨.rightParen, ")", .columns 15 16⟩], by decide +kernel, rfl⟩
  rw [environment.runLine_of_parse read parsed]
  dsimp only
  rw [Environment.evaluate_rule (by decide)]
  exact fatal_call rfl

/-- The two loops go on and stop together. -/
theorem runScript_served (name : String) (env : Environment) {lines : List String}
    (typed : ∀ line ∈ lines, Text.applyBackspaces line = some line) :
    ∃ served failure, Served (stages env lines) served failure ∧
      runScript name env (lines.map some) =
        ⟨served.flatMap fun stage => echo stage.line :: stage.output, failure.map Error.message⟩ ∧
      runEntered env lines =
        ⟨served.flatMap Stage.output ++ if failure.isSome then [] else [farewell],
          failure.map Error.message⟩ := by
  induction lines generalizing env with
  | nil => exact ⟨[], none, .all nofun, rfl, rfl⟩
  | cons line rest ih =>
    obtain ⟨whole, others⟩ := List.forall_mem_cons.mp typed
    have entered : enter env line = reply env line := by
      unfold enter
      rw [whole]
    have failed := reply_failure ⟨env, line⟩
    have after := reply_env env line
    rw [List.map_cons, runScript, runEntered, entered, stages]
    dsimp only at failed ⊢
    rw [failed]
    cases fatal : (Stage.mk env line).fatal? with
    | some err =>
      refine ⟨_, _, .stopped [] _ nofun fatal, ?_, ?_⟩
      · simp [Stage.output]
      · simp [Stage.output]
    | none =>
      obtain ⟨served, failure, runs, script, dialogue⟩ := ih (env.runLine line).env others
      refine ⟨_, _, runs.cons fatal, ?_, ?_⟩
      · rw [Option.map_none]
        dsimp only
        rw [after, script]
        rfl
      · rw [Option.map_none]
        dsimp only
        rw [after, dialogue]
        simp [Transcript.after, Stage.output]

open Transcript

theorem join_flatMap (served : List Stage) (f : Stage → List String) :
    String.join ((served.flatMap f).map lineText) =
      String.join (served.map fun stage => String.join ((f stage).map lineText)) := by
  induction served with
  | nil => rfl
  | cons stage rest ih =>
    rw [List.flatMap_cons, List.map_append, String.join_append, ih, List.map_cons, String.join_cons]

/-- A script and a dialogue of the same text run the same lines and print the same for each. They
stop at the first fatal one, with the same message and the same status. -/
theorem script_dialogue (name : String) {text : String} (typed : Text.backspace ∉ text.toList) :
    let lines := Text.lines text
    let script := script name (some text.toUTF8)
    let dialogue := dialogue text
    Text.fileLines text.toUTF8 = lines.map some ∧
    (∃ served failure, Served (stages environment lines) served failure ∧
      script.stdout =
        String.join (served.map fun stage => lineText (echo stage.line) ++ stage.shown) ∧
      dialogue.stdout = lineText banner ++ String.join (served.map Stage.shown) ++
        (if failure.isSome then "" else lineText farewell) ∧
      script.stderr = (failure.map fun err => lineText err.message).getD "") ∧
    dialogue.stderr = script.stderr ∧ dialogue.status = script.status ∧
    (script.status = 1 ↔
      ∃ stage ∈ stages environment lines, stage.fatal?.isSome = true) ∧
    (script.status ≠ 1 → script.status = 0) := by
  have same := Text.fileLines_toUTF8 text
  have whole : ∀ line ∈ Text.lines text, Text.applyBackspaces line = some line :=
    fun line among => Text.applyBackspaces_eq fun member =>
      typed (Text.mem_of_mem_lines member among)
  obtain ⟨served, failure, runs, scripted, entered⟩ := runScript_served name environment whole
  have script : script name (some text.toUTF8) = _ :=
    (congrArg (runScript name environment) same).trans scripted
  have dialogue : dialogue text = _ := congrArg (Transcript.after [banner]) entered
  dsimp only
  rw [script, dialogue]
  refine ⟨same, ⟨served, failure, runs, ?_, ?_, ?_⟩, rfl, rfl, ?_, ?_⟩
  · unfold stdout
    rw [join_flatMap]
    simp only [List.map_cons, String.join_cons]
    rfl
  · have printed : String.join ((served.flatMap Stage.output).map lineText) =
        String.join (served.map Stage.shown) := join_flatMap served Stage.output
    simp only [stdout, Transcript.after, List.map_append, String.join_append, printed,
      List.map_singleton, String.join_cons, String.join_nil, String.append_empty]
    cases failure <;> simp [String.append_assoc]
  · cases failure <;> rfl
  · rw [← runs.isSome_iff]
    cases failure <;> simp [status]
  · cases failure <;> simp [status]

/-- A text with a blank line, whose third line hits a limit. -/
theorem script_dialogue_endless :
    let text := "(define (f) (f))\r\n\n(f)\nf"
    Text.backspace ∉ text.toList ∧ (script "endless" (some text.toUTF8)).status = 1 ∧
      (dialogue text).status = 1 := by
  intro text
  have typed : Text.backspace ∉ text.toList := by decide
  have lines : Text.lines text = ["(define (f) (f))", "", "(f)", "f"] := by decide +kernel
  have blank (env : Environment) : (env.runLine "").env = env := by rw [runLine_blank (by decide)]
  obtain ⟨-, -, -, same, status, -⟩ := script_dialogue "endless" typed
  have stopped : (script "endless" (some text.toUTF8)).status = 1 := by
    refine status.mpr ⟨_, ?_, fatal_endless⟩
    rw [lines]
    simp [stages, blank]
  exact ⟨typed, stopped, same.trans stopped⟩

end LineLisp.Console
