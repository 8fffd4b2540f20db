/-! Character classes given by ranges of code points.
A class is a list of inclusive ranges; membership is a plain search, so that
facts about a class can be settled by evaluation. -/
namespace LineLisp.Text

structure CharRange where
  first : Nat
  last : Nat

def CharRange.contains (range : CharRange) (c : Char) : Bool :=
  range.first ≤ c.toNat && c.toNat ≤ range.last

def charRanges (bounds : List (Nat × Nat)) : List CharRange :=
  bounds.map fun bound => ⟨bound.1, bound.2⟩

def inRanges (ranges : List CharRange) (c : Char) : Bool :=
  ranges.any (·.contains c)

theorem inRanges_iff (ranges : List CharRange) (c : Char) :
    inRanges ranges c = true ↔ ∃ range ∈ ranges, range.first ≤ c.toNat ∧ c.toNat ≤ range.last := by
  simp [inRanges, CharRange.contains]

end LineLisp.Text
