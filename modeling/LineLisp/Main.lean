import LineLisp.Terminal

/-! The program: runs the script that its first argument names, or else the
lines of the standard input. -/
namespace LineLisp

def runFile (name : String) : IO UInt32 := do
  let file ← try some <$> IO.FS.readBinFile name catch _ => pure none
  Terminal.standard.finish (Console.script name file)

end LineLisp

def main (args : List String) : IO UInt32 := do
  match args with
  | name :: _ => LineLisp.runFile name
  | [] => LineLisp.Terminal.standard.converse
