/-! Places in a line of source.
Columns count UTF-8 bytes from the start of the line. A span is unknown for
what was not read from a line. -/
namespace LineLisp

inductive Span where
  | unknown
  | columns (first past : Nat)
deriving DecidableEq, Repr, Inhabited

namespace Span

/-- From the start of one span to the end of another, or the known one alone. -/
def till : Span → Span → Span
  | unknown, other => other
  | columns first past, unknown => columns first past
  | columns first _, columns _ past => columns first past

def start? : Span → Option Nat
  | unknown => none
  | columns first _ => some first

def text : Span → String
  | unknown => "unknown location"
  | columns first past =>
    if first + 1 < past then
      "column " ++ toString first ++ " till column " ++ toString past
    else "column " ++ toString first

def covering : List Span → Span
  | [] => unknown
  | first :: rest => first.till (rest.getLastD first)

end Span

end LineLisp
