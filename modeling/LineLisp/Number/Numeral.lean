import LineLisp.Number.Binary

/-! Reading decimal numerals.
A numeral is an optional sign, digits and optionally a point with further
digits; its number is the binary64 number nearest to it. -/
namespace LineLisp.Number

def isSign (c : Char) : Bool :=
  c == '+' || c == '-'

def unsigned (text : List Char) : List Char :=
  match text with
  | c :: rest => if isSign c then rest else text
  | [] => []

structure Decimal where
  coefficient : Nat
  places : Nat
deriving DecidableEq, Repr

def Decimal.rank (d : Decimal) : Nat :=
  nearestRank d.coefficient (tenPow d.places)

def Decimal.ofNumeral (text : List Char) : Decimal :=
  let whole := text.takeWhile Char.isDigit
  let fraction := (text.drop (whole.length + 1)).takeWhile Char.isDigit
  ⟨Nat.ofDigitChars 10 (whole ++ fraction) 0, fraction.length⟩

def ofNumeral (text : List Char) : Float :=
  ofRank (text.head? == some '-') (Decimal.ofNumeral (unsigned text)).rank

/-- Reads an optional sign, digits and perhaps a point with further digits, and nothing else. -/
def read? (text : List Char) : Option Float :=
  let whole := (unsigned text).takeWhile Char.isDigit
  if whole = [] then none
  else
    match (unsigned text).drop whole.length with
    | [] => some (ofNumeral text)
    | c :: places => if c = '.' ∧ places.all Char.isDigit then some (ofNumeral text) else none

end LineLisp.Number
