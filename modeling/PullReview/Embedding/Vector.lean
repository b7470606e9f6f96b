/-!
# Vectors

Sums run from left to right. A vector shorter than the least length counts as having none.
-/

namespace PullReview.Embedding

def dot (a b : List Float) : Float := (List.zipWith (· * ·) a b).foldl (· + ·) 0.0

def norm (v : List Float) : Float := Float.sqrt (dot v v)

/-- Vectors shorter than this have no direction. -/
def leastNorm : Float := 1e-12

/-- A vector scaled to length one; one without direction stays as it is. -/
def unit (v : List Float) : List Float :=
  let n := norm v
  if n < leastNorm then v else v.map (· / n)

/-- The cosine of the angle of two vectors; zero if there is none. -/
def cosine (a b : List Float) : Float :=
  if a.isEmpty || b.isEmpty || a.length != b.length then 0.0
  else
    let m := norm a
    let n := norm b
    if m < leastNorm || n < leastNorm then 0.0 else dot a b / (m * n)

end PullReview.Embedding
