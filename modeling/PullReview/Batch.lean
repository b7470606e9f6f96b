/-!
# Batches

A list cut into parts of a given size, the last of which may be shorter.
-/

namespace PullReview.Batch

/-- A list cannot be cut into parts of no elements. -/
inductive Fault where
  | zeroSize
  deriving DecidableEq, Repr

def Fault.message : Fault → String
  | zeroSize => "range() arg 3 must not be zero"

/-- Parts of `size + 1` elements; `fuel` need not exceed the length of the list. -/
def partsOf {α : Type} (size : Nat) : Nat → List α → List (List α)
  | 0, _ => []
  | _ + 1, [] => []
  | fuel + 1, xs => xs.take (size + 1) :: partsOf size fuel (xs.drop (size + 1))

/-- The parts of a list; for a negative size there are none. -/
def parts {α : Type} (size : Int) (xs : List α) : Except Fault (List (List α)) :=
  if size == 0 then .error .zeroSize
  else if size < 0 then .ok []
  else .ok (partsOf (size.toNat - 1) xs.length xs)

end PullReview.Batch
