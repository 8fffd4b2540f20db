import LineLisp.Console

/-! Talking to a user.
A terminal gives the input piece by piece, each up to the end of a line, and an empty piece when
there is no more. The loop that answers takes any terminal, in whatever monad that works: one of the
standard streams, or one that keeps everything in memory. -/
namespace LineLisp

structure Terminal (m : Type → Type) where
  read : m String
  print : Console.Transcript → m Unit

namespace Terminal

open Console (Transcript)

section Loop

variable {m : Type → Type} [Monad m]

def finish (terminal : Terminal m) (transcript : Transcript) : m UInt32 := do
  terminal.print transcript
  return transcript.status

/-- Answers one line; the dialogue goes on with an environment or ends with a status. -/
def turn (terminal : Terminal m) (env : Environment) : m (Environment ⊕ UInt32) := do
  match Text.lines (← terminal.read) with
  | [] => return .inr (← terminal.finish (Console.runEntered env []))
  | line :: _ =>
    let next := Console.enter env line
    let status ← terminal.finish ⟨next.output, next.failure⟩
    return if next.failure.isSome then .inr status else .inl next.env

def converse (terminal : Terminal m) : m UInt32 := do
  terminal.print ⟨[Console.banner], none⟩
  repeatM terminal.turn Console.environment

end Loop

def standard : Terminal IO where
  read := do (← IO.getStdin).getLine
  print transcript := do
    let output ← IO.getStdout
    output.putStr transcript.stdout
    output.flush
    (← IO.getStderr).putStr transcript.stderr

end Terminal

end LineLisp
