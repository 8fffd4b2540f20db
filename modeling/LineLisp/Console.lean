import LineLisp.Session
import LineLisp.Text.Backspace
import LineLisp.Text.Lines

/-! The command line: running a script and talking to a user.
Both run lines against one environment, pass over blank ones and stop at the
first fatal error; a script also shows the lines it runs, and stops at one that
has no text. -/
namespace LineLisp.Console

def config : Config :=
  { maxCallDepth := 10000, maxEvalDepth := 30000 }

def environment : Environment :=
  .withConfig config

structure Reply where
  output : List String
  failure : Option String
  env : Environment

def shown (value : Value) (env : Environment) : String :=
  match value with
  | .define => "define: " ++ env.globals.text
  | .procedure _ | .void _ => value.text
  | .number _ | .boolean _ => "Result is: " ++ value.text

def reply (env : Environment) (line : String) : Reply :=
  if Text.isBlankLine line then ⟨[], none, env⟩
  else
    let outcome := env.runLine line
    match outcome.result with
    | .ok value => ⟨[shown value outcome.env], none, outcome.env⟩
    | .error err =>
      if err.isFatal then ⟨[], some err.message, outcome.env⟩
      else ⟨[err.message], none, outcome.env⟩

structure Transcript where
  output : List String
  failure : Option String := none

namespace Transcript

def lineText (line : String) : String :=
  line ++ "\n"

def stdout (transcript : Transcript) : String :=
  String.join (transcript.output.map lineText)

def stderr (transcript : Transcript) : String :=
  (transcript.failure.map lineText).getD ""

def status (transcript : Transcript) : UInt32 :=
  if transcript.failure.isSome then 1 else 0

def after (lines : List String) (transcript : Transcript) : Transcript :=
  { transcript with output := lines ++ transcript.output }

end Transcript

def echo (line : String) : String :=
  "> " ++ line

def runScript (name : String) (env : Environment) : List (Option String) → Transcript
  | [] => ⟨[], none⟩
  | none :: _ => ⟨[], some (name ++ ": stream did not contain valid UTF-8")⟩
  | some line :: rest =>
    let next := reply env line
    match next.failure with
    | some message => ⟨echo line :: next.output, some message⟩
    | none => (runScript name next.env rest).after (echo line :: next.output)

/-- Runs a script file; `none` stands for a file that does not exist. -/
def script (name : String) : Option ByteArray → Transcript
  | none => ⟨[], some (name ++ ": No such file or directory (os error 2)")⟩
  | some file => runScript name environment (Text.fileLines file)

def banner : String := "Welcome to minimalistic racket!"

def farewell : String := "CTRL-D"

/-- The message for a line of which a backspace leaves a part of a character. -/
def brokenLine : String := "session thread panicked"

def enter (env : Environment) (line : String) : Reply :=
  match Text.applyBackspaces line with
  | some text => reply env text
  | none => ⟨[], some brokenLine, env⟩

def runEntered (env : Environment) : List String → Transcript
  | [] => ⟨[farewell], none⟩
  | line :: rest =>
    let next := enter env line
    match next.failure with
    | some message => ⟨next.output, some message⟩
    | none => (runEntered next.env rest).after next.output

def dialogue (text : String) : Transcript :=
  (runEntered environment (Text.lines text)).after [banner]

end LineLisp.Console
