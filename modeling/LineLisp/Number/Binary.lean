/-! Exact arithmetic behind binary64 numbers.
A finite non-negative number is addressed by its bit pattern, its *rank*; ranks
grow with the number, and that of infinity is the next after the greatest
finite one's. Every finite number is a multiple of 2^-1074, so that its value is
the natural number `units rank` in these units. -/
namespace LineLisp.Number

def twoPow (n : Nat) : Nat := Nat.pow 2 n

def tenPow (n : Nat) : Nat := Nat.pow 10 n

def unitsPerOne : Nat := twoPow 1074

def infinityRank : Nat := 0x7ff0000000000000

/-- How many units the number with rank `rank` has. The first 2^53 ranks are
spaced by one unit and each further 2^52 ranks by twice the spacing before. -/
def units (rank : Nat) : Nat :=
  if rank < twoPow 53 then rank
  else (twoPow 52 + rank % twoPow 52) * twoPow (rank / twoPow 52 - 1)

def roundHalfEven (num den : Nat) : Nat :=
  let down := num / den
  let twice := 2 * (num % den)
  if den < twice ∨ (twice = den ∧ down % 2 = 1) then down + 1 else down

/-- The rank of the number nearest to `num / den`, with the even rank for a
number in the middle and the rank of infinity for one beyond the range. -/
def nearestRank (num den : Nat) : Nat :=
  let scaled := num * unitsPerOne
  let binade := (scaled / den).log2 - 52
  min infinityRank (binade * twoPow 52 + roundHalfEven scaled (den * twoPow binade))

inductive Shape where
  | nan
  | infinite (negative : Bool)
  | finite (negative : Bool) (rank : Nat)
deriving DecidableEq, Repr

def shape (x : Float) : Shape :=
  let bits := x.toBits.toNat
  let negative := decide (twoPow 63 ≤ bits)
  let rank := bits % twoPow 63
  if rank < infinityRank then .finite negative rank
  else if rank = infinityRank then .infinite negative
  else .nan

def ofRank (negative : Bool) (rank : Nat) : Float :=
  Float.ofBits (UInt64.ofNat (if negative then twoPow 63 + rank else rank))

end LineLisp.Number
