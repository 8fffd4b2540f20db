import LineLisp.Number.Numeral

/-! Writing numbers as decimal text.
`shortest` takes the fewest digits that read back as the number, and of those
the nearest; `fixedTwo` rounds the exact value to two places, a half to the even
neighbour. Neither uses an exponent. -/
namespace LineLisp.Number

def paddedDigits (width n : Nat) : List Char :=
  let digits := Nat.toDigits 10 n
  List.replicate (width - digits.length) '0' ++ digits

def Decimal.fraction (d : Decimal) : List Char :=
  if d.places = 0 then []
  else ((paddedDigits d.places (d.coefficient % tenPow d.places)).reverse.dropWhile (· == '0')).reverse

def Decimal.digits (d : Decimal) : List Char :=
  let whole := Nat.toDigits 10 (d.coefficient / tenPow d.places)
  match d.fraction with
  | [] => whole
  | fraction => whole ++ '.' :: fraction

def Decimal.ofGrid (count : Nat) (exponent : Int) : Decimal :=
  match exponent with
  | .ofNat n => ⟨count * tenPow n, 0⟩
  | .negSucc n => ⟨count, n + 1⟩

def exactDecimal (rank : Nat) : Decimal :=
  ⟨units rank * Nat.pow 5 1074, 1074⟩

def digitTotal (n : Nat) : Nat :=
  (Nat.toDigits 10 n).length

/-- The exponent `k` with `10 ^ (k - 1) ≤ x < 10 ^ k`, where `x` is the
positive number with rank `rank`. For `x` below 1 it comes from the digits of
the greatest integer below `1 / x`. -/
def decimalExponent (rank : Nat) : Int :=
  if unitsPerOne ≤ units rank then digitTotal (units rank / unitsPerOne)
  else 1 - (digitTotal ((unitsPerOne - 1) / units rank) : Int)

/-- The neighbours of a number among the multiples of `10 ^ exponent`, the
nearer one first; the greater one is first when both are as near. -/
def neighbours (rank : Nat) (exponent : Int) : List Decimal :=
  let num := units rank * tenPow (-exponent).toNat
  let den := unitsPerOne * tenPow exponent.toNat
  let below := Decimal.ofGrid (num / den) exponent
  let above := Decimal.ofGrid (num / den + 1) exponent
  if den ≤ 2 * (num % den) then [above, below] else [below, above]

def shortestWithin (rank : Nat) (limit : Nat) : Option Decimal :=
  let first := decimalExponent rank - 1
  (List.range limit).findSome? fun (n : Nat) =>
    (neighbours rank (first - n)).find? (·.rank == rank)

/-- The shortest decimal that reads back as the number with rank `rank`. At most
17 digits are needed; every digit would do as well. -/
def shortestDecimal (rank : Nat) : Decimal :=
  if rank = 0 then ⟨0, 0⟩
  else (shortestWithin rank 17).getD (exactDecimal rank)

def signText (negative : Bool) : List Char :=
  if negative then ['-'] else []

def shortest (x : Float) : String :=
  match shape x with
  | .nan => "NaN"
  | .infinite negative => String.ofList (signText negative ++ ['i', 'n', 'f'])
  | .finite negative rank => String.ofList (signText negative ++ (shortestDecimal rank).digits)

def fixedTwo (x : Float) : String :=
  match shape x with
  | .nan => "NaN"
  | .infinite negative => String.ofList (signText negative ++ ['i', 'n', 'f'])
  | .finite negative rank =>
    let hundredths := roundHalfEven (units rank * 100) unitsPerOne
    String.ofList (signText negative ++ Nat.toDigits 10 (hundredths / 100) ++
      '.' :: paddedDigits 2 (hundredths % 100))

end LineLisp.Number
