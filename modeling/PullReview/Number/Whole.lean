/-!
# Whole numbers from digits

A whole number may be read and written with so many digits and no more.
-/

namespace PullReview.Number

/-- The most digits of a whole number. -/
def digitLimit : Nat := 4300

/-- Whether so many digits are within a limit, if there is one. -/
def within (limit : Option Nat) (count : Nat) : Bool := limit.all (count ≤ ·)

/-- A whole number with more digits than the limit. -/
structure TooManyDigits where
  count : Nat
  deriving DecidableEq, Repr

def TooManyDigits.message (e : TooManyDigits) : String :=
  "Exceeds the limit (4300 digits) for integer string conversion: value has " ++
    toString e.count ++ " digits; use sys.set_int_max_str_digits() to increase the limit"

def wholeOfDigits (ds : List Nat) : Nat := ds.foldl (fun n d => n * 10 + d) 0

def readWhole (ds : List Nat) : Except TooManyDigits Nat :=
  if ds.length > digitLimit then .error ⟨ds.length⟩ else .ok (wholeOfDigits ds)

end PullReview.Number
