/-! The built-in forms and their spellings. -/
namespace LineLisp

inductive Operator where
  | plus
  | minus
  | times
  | divide
  | and
  | or
  | not
  | equal
  | greater
  | greaterEqual
  | less
  | lessEqual
  | conditional
  | define
deriving DecidableEq, Repr

namespace Operator

def all : List Operator :=
  [plus, minus, times, divide, and, or, not, equal, greater, greaterEqual, less, lessEqual,
    conditional, define]

def symbol : Operator → String
  | plus => "+"
  | minus => "-"
  | times => "*"
  | divide => "/"
  | and => "and"
  | or => "or"
  | not => "not"
  | equal => "="
  | greater => ">"
  | greaterEqual => ">="
  | less => "<"
  | lessEqual => "<="
  | conditional => "if"
  | define => "define"

def ofName? (name : String) : Option Operator :=
  all.find? (·.symbol == name)

def isArithmetic : Operator → Bool
  | plus | minus | times | divide => true
  | _ => false

theorem ofName?_symbol (op : Operator) : ofName? op.symbol = some op := by
  cases op <;> decide

theorem symbol_of_ofName? {name : String} {op : Operator} (found : ofName? name = some op) :
    op.symbol = name := by
  simpa using List.find?_some found

end Operator

end LineLisp
