/-! Lines of a text or of a file.
A line ends at a newline, and a carriage return before the newline is not part
of it. What stands behind the last newline is a line unless it is empty. -/
namespace LineLisp.Text

variable {α : Type} [DecidableEq α]

/-- A line without the carriage return at its end, given backwards. -/
def withoutReturn (ret : α) : List α → List α
  | [] => []
  | c :: before => if c = ret then before.reverse else (c :: before).reverse

/-- Cuts a text into lines; `current`, latest first, is the line being read. -/
def linesFrom (newline ret : α) (current : List α) : List α → List (List α)
  | [] => if current.isEmpty then [] else [current.reverse]
  | c :: rest =>
    if c = newline then withoutReturn ret current :: linesFrom newline ret [] rest
    else linesFrom newline ret (c :: current) rest

def lines (text : String) : List String :=
  (linesFrom '\n' '\r' [] text.toList).map String.ofList

/-- The lines of a file, where one that is not valid UTF-8 has no text. -/
def fileLines (file : ByteArray) : List (Option String) :=
  (linesFrom 10 13 [] file.toList).map fun line => String.fromUTF8? ⟨line.toArray⟩

end LineLisp.Text
