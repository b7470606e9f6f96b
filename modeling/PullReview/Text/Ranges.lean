/-!
# Sets of code points

A property of characters is given by the closed ranges of code points that have it. Tables of
case maps list runs of code points that move by one distance.
-/

namespace PullReview.Text

/-- A run `lo, lo + stride, …, hi` of code points that all move by `delta`. -/
structure Shift where
  lo : Nat
  hi : Nat
  stride : Nat
  delta : Int

def inRanges (ranges : List (Nat × Nat)) (n : Nat) : Bool :=
  ranges.any fun r => r.1 ≤ n && n ≤ r.2

def Shift.applies (s : Shift) (n : Nat) : Bool :=
  s.lo ≤ n && n ≤ s.hi && (n - s.lo) % s.stride == 0

/-- The image of a code point under a list of shifts; a code point in no run stays. -/
def shifted (shifts : List Shift) (n : Nat) : Nat :=
  match shifts.find? (·.applies n) with
  | some s => (n + s.delta).toNat
  | none => n

end PullReview.Text
