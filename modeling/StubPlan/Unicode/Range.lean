/-! Sets of code points given as ascending ranges. -/
namespace StubPlan.Unicode

/-- Whether a number lies in one of the ranges, ends included. -/
def inRanges (ranges : List (Nat × Nat)) (n : Nat) : Bool :=
  ranges.any fun (first, last) => first ≤ n && n ≤ last

end StubPlan.Unicode
