import LineLisp.Proofs.Text.Lines
import LineLisp.Terminal

/-! The dialogue over a terminal.
The loop that talks to a terminal is run with one that keeps its input, and all that it has shown,
in memory: what it shows then is the dialogue about the text. -/
namespace LineLisp

namespace Text

variable {α : Type} [DecidableEq α]

def cutLine (newline : α) : List α → List α × List α
  | [] => ([], [])
  | c :: rest =>
    if c = newline then ([c], rest)
    else (c :: (cutLine newline rest).1, (cutLine newline rest).2)

/-- The first piece of a text is one line, and the others are those of the rest. -/
theorem linesFrom_cutLine (newline ret : α) (current : List α) {chars : List α}
    (filled : current ≠ [] ∨ chars ≠ []) :
    ∃ line, linesFrom newline ret current (cutLine newline chars).1 = [line] ∧
      linesFrom newline ret current chars =
        line :: linesFrom newline ret [] (cutLine newline chars).2 := by
  induction chars generalizing current with
  | nil =>
    have begun : current ≠ [] := by simpa using filled
    refine ⟨current.reverse, ?_, ?_⟩ <;> simp [cutLine, linesFrom, begun]
  | cons c rest ih =>
    by_cases ends : c = newline
    · simp [cutLine, linesFrom, ends]
    · obtain ⟨line, first, all⟩ := ih (c :: current) (.inl (List.cons_ne_nil c current))
      refine ⟨line, ?_, ?_⟩
      · simpa [cutLine, linesFrom, ends] using first
      · simpa [cutLine, linesFrom, ends] using all

theorem lines_cutLine {chars : List Char} (filled : chars ≠ []) :
    ∃ line, lines (String.ofList (cutLine '\n' chars).1) = [line] ∧
      lines (String.ofList chars) = line :: lines (String.ofList (cutLine '\n' chars).2) := by
  obtain ⟨line, first, all⟩ := linesFrom_cutLine '\n' '\r' [] (.inr filled)
  refine ⟨String.ofList line, ?_, ?_⟩
  · simp [lines, first]
  · simp [lines, all]

theorem lines_eq_nil_iff (chars : List Char) : lines (String.ofList chars) = [] ↔ chars = [] := by
  constructor
  · intro empty
    apply Decidable.byContradiction
    intro filled
    obtain ⟨line, -, all⟩ := lines_cutLine filled
    simp [all] at empty
  · intro empty
    simp [empty, lines, linesFrom]

end Text

structure Tape where
  input : List Char
  stdout : String
  stderr : String
deriving Inhabited

namespace Tape

open Console (Transcript)

def piece (tape : Tape) : String :=
  String.ofList (Text.cutLine '\n' tape.input).1

def behind (tape : Tape) : Tape :=
  { tape with input := (Text.cutLine '\n' tape.input).2 }

def shown (transcript : Transcript) (tape : Tape) : Tape :=
  { tape with
    stdout := tape.stdout ++ transcript.stdout
    stderr := tape.stderr ++ transcript.stderr }

theorem shown_after (tape : Tape) (lines : List String) (transcript : Transcript) :
    (tape.shown ⟨lines, none⟩).shown transcript = tape.shown (transcript.after lines) := by
  simp [shown, Transcript.stdout, Transcript.stderr, Transcript.after, String.append_assoc,
    String.join_append]

end Tape

namespace Terminal

open Console (Transcript runEntered enter)

def memory : Terminal (StateM Tape) where
  read := modifyGet fun tape => (tape.piece, tape.behind)
  print transcript := modify (·.shown transcript)

theorem turn_memory (env : Environment) (tape : Tape) : (memory.turn env).run tape =
    match Text.lines tape.piece with
    | [] => (.inr (runEntered env []).status, tape.behind.shown (runEntered env []))
    | line :: _ =>
      let next := enter env line
      let transcript : Transcript := ⟨next.output, next.failure⟩
      (if next.failure.isSome then .inr transcript.status else .inl next.env,
        tape.behind.shown transcript) := by
  change (match Text.lines tape.piece with
    | [] => _
    | line :: _ => _ : StateM Tape _).run tape.behind = _
  cases Text.lines tape.piece <;> rfl

theorem repeat_turn (env : Environment) (tape : Tape) : (repeatM memory.turn env).run tape =
    match (memory.turn env).run tape with
    | (.inl next, rest) => (repeatM memory.turn next).run rest
    | (.inr status, rest) => (status, rest) := by
  rw [repeatM_eq_of_monadTail, StateT.run_bind]
  change (match (memory.turn env).run tape with
    | (answer, rest) => StateT.run _ rest) = _
  rcases (memory.turn env).run tape with ⟨next | status, rest⟩ <;> rfl

/-- The loop shows what entering the lines of the input leads to. -/
theorem repeat_shows (env : Environment) (tape : Tape) :
    ∃ rest, (repeatM memory.turn env).run tape =
      ((runEntered env (Text.lines (String.ofList tape.input))).status,
        { tape.shown (runEntered env (Text.lines (String.ofList tape.input))) with input := rest }) := by
  induction cut : Text.lines (String.ofList tape.input) generalizing env tape with
  | nil =>
    have ended : tape.input = [] := (Text.lines_eq_nil_iff _).mp cut
    have last : Text.lines tape.piece = [] := by
      apply (Text.lines_eq_nil_iff _).mpr
      simp [ended, Text.cutLine]
    rw [repeat_turn, turn_memory, last]
    exact ⟨_, rfl⟩
  | cons line rest ih =>
    have filled : tape.input ≠ [] := by
      intro ended
      rw [(Text.lines_eq_nil_iff _).mpr ended] at cut
      cases cut
    obtain ⟨front, first, all⟩ := Text.lines_cutLine filled
    obtain ⟨rfl, others⟩ := List.cons.inj (all.symm.trans cut)
    have told : Text.lines tape.piece = [front] := first
    rw [repeat_turn, turn_memory, told]
    dsimp only
    rw [runEntered]
    cases failed : (enter env front).failure with
    | some message => exact ⟨_, rfl⟩
    | none =>
      obtain ⟨left, goes⟩ := ih (enter env front).env (tape.behind.shown _) others
      refine ⟨left, goes.trans ?_⟩
      rw [Tape.shown_after]
      rfl

/-- A terminal that keeps everything in memory shows the dialogue about its text, and the loop ends
with the status of the dialogue. -/
theorem converse_dialogue (text : String) : ∃ rest, memory.converse.run ⟨text.toList, "", ""⟩ =
    ((Console.dialogue text).status,
      ⟨rest, (Console.dialogue text).stdout, (Console.dialogue text).stderr⟩) := by
  let start : Tape := ⟨text.toList, "", ""⟩
  obtain ⟨rest, shown⟩ := repeat_shows Console.environment (start.shown ⟨[Console.banner], none⟩)
  refine ⟨rest, shown.trans ?_⟩
  rw [Tape.shown_after]
  simp only [start, Tape.shown, String.ofList_toList, String.empty_append]
  rfl

end Terminal

end LineLisp
