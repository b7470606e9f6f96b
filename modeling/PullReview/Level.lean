/-!
# Levels

How severe a finding is, or how likely a prediction. A record from outside may carry a word of its
own.
-/

namespace PullReview

inductive Level where
  | low
  | medium
  | high
  | other (word : String)
  deriving DecidableEq, Repr, Inhabited

namespace Level

def word : Level → String
  | low => "low"
  | medium => "medium"
  | high => "high"
  | other w => w

def ofWord (w : String) : Level :=
  if w == "low" then low
  else if w == "medium" then medium
  else if w == "high" then high
  else other w

def rank : Level → Nat
  | medium => 1
  | high => 2
  | _ => 0

/-- The first level of highest rank, low if there is none. -/
def highest : List Level → Level
  | [] => low
  | l :: ls => ls.foldl (fun best x => if best.rank < x.rank then x else best) l

end Level

end PullReview
