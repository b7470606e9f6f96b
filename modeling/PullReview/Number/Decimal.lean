import PullReview.Number.Binary64

/-!
# Decimal text of doubles

`fixed` writes a given number of places, correctly rounded. `shortest` finds the fewest digits
that read back as the same double and, of those, the nearest; `plain` and `compact` lay them out.
-/

namespace PullReview.Number

/-- Left-pads with zeros. -/
def zeroPad (width : Nat) (s : String) : String :=
  String.ofList (List.replicate (width - s.length) '0') ++ s

/-- The whole number `n` with its last `places` digits behind a point. -/
private def placed (places n : Nat) : String :=
  if places == 0 then toString n
  else
    let unit := Nat.pow 10 places
    toString (n / unit) ++ "." ++ zeroPad places (toString (n % unit))

/-- The value times `10 ^ places`, rounded to the nearest integer, ties to even. -/
def scaled (places significand : Nat) (exponent : Int) : Nat :=
  let raised := significand * Nat.pow 10 places
  if exponent < 0 then roundQuotient raised (1 <<< (-exponent).toNat)
  else raised <<< exponent.toNat

/-- Fixed-point text. A value that rounds to zero keeps its sign unless it is zero. -/
def fixed (places : Nat) (x : Float) : String :=
  match Datum.ofFloat x with
  | .nan => "nan"
  | .infinite negative => if negative then "-inf" else "inf"
  | .finite negative significand exponent =>
      let sign := if negative && significand != 0 then "-" else ""
      sign ++ placed places (scaled places significand exponent)

/-- A share as a whole number of percent; the sign of zero is kept. -/
def percent (x : Float) : String :=
  let y := x * 100.0
  (if y.toBits == (-0.0 : Float).toBits then "-0" else fixed 0 y) ++ "%"

/-- A positive decimal `digits * 10 ^ exponent`. -/
structure Digits where
  digits : Nat
  exponent : Int
  deriving DecidableEq, Repr

/-- The interval of reals that round to `m * 2 ^ e`, as numerators over `2 ^ (e - 2)`. -/
private def readsBack (m : Nat) (e : Int) (d : Digits) : Bool :=
  let low := if m == 1 <<< 52 && e > -1074 then 4 * m - 1 else 4 * m - 2
  let high := 4 * m + 2
  let shift := e - 2
  -- compare `digits * 10 ^ exponent` with `bound * 2 ^ shift` after clearing the denominators
  let left := (d.digits * Nat.pow 10 d.exponent.toNat) <<< (-shift).toNat
  let scale := Nat.pow 10 (-d.exponent).toNat <<< shift.toNat
  if m % 2 == 0 then low * scale ≤ left && left ≤ high * scale
  else low * scale < left && left < high * scale

/-- The two neighbours of `m * 2 ^ e` among the multiples of `10 ^ k`, and which is nearer. -/
private def neighbours (m : Nat) (e k : Int) : Nat × Bool :=
  let num := (m * Nat.pow 10 (-k).toNat) <<< e.toNat
  let den := Nat.pow 10 k.toNat <<< (-e).toNat
  let r := num % den
  (num / den, 2 * r > den || (2 * r == den && num / den % 2 == 1))

private def shortestFrom (m : Nat) (e k : Int) : Nat → Digits
  | 0 => ⟨m, 0⟩
  | left + 1 =>
      let (below, upper) := neighbours m e k
      let near : Digits := ⟨if upper then below + 1 else below, k⟩
      let far : Digits := ⟨if upper then below else below + 1, k⟩
      if near.digits != 0 && readsBack m e near then near
      else if far.digits != 0 && readsBack m e far then far
      else shortestFrom m e (k - 1) left

private def stripZeros : Nat → Digits → Digits
  | 0, d => d
  | fuel + 1, d =>
      if d.digits != 0 && d.digits % 10 == 0 then stripZeros fuel ⟨d.digits / 10, d.exponent + 1⟩
      else d

/-- The fewest digits that read back as `m * 2 ^ e`, nearest of those. -/
def shortest (m : Nat) (e : Int) : Digits :=
  let whole := if e < 0 then m >>> (-e).toNat else m <<< e.toNat
  -- a power of ten above the value, to start from one digit or none
  let top : Int :=
    if whole == 0 then
      (Nat.toDigits 10 ((m * Nat.pow 10 330) >>> (-e).toNat)).length - (330 : Int)
    else (Nat.toDigits 10 whole).length
  stripZeros 400 (shortestFrom m e top 20)

/-- Digits `d₁d₂…dₙ` with the point after the first `point` of them, zeros filled in. -/
def pointed (ds : String) (point : Int) : String :=
  if point ≤ 0 then "0." ++ zeroPad (ds.length + (-point).toNat) ds
  else
    let whole := point.toNat
    if ds.length ≤ whole then ds ++ zeroPad (whole - ds.length) "" ++ ".0"
    else String.ofList (ds.toList.take whole) ++ "." ++ String.ofList (ds.toList.drop whole)

def scientific (exponentWidth : Nat) (ds : String) (point : Int) : String :=
  let mantissa :=
    match ds.toList with
    | [d] => String.ofList [d]
    | d :: rest => String.ofList (d :: '.' :: rest)
    | [] => ""
  let e := point - 1
  mantissa ++ "e" ++ (if e < 0 then "-" else "+") ++ zeroPad exponentWidth (toString e.natAbs)

/-- Shortest text: positional from `1e-4` up to below `1e16`, otherwise with an exponent of at
least two digits. -/
def plain (x : Float) : String :=
  match Datum.ofFloat x with
  | .nan => "nan"
  | .infinite negative => if negative then "-inf" else "inf"
  | .finite negative 0 _ => if negative then "-0.0" else "0.0"
  | .finite negative m e =>
      let d := shortest m e
      let ds := toString d.digits
      let point : Int := ds.length + d.exponent
      let body := if point ≤ -4 || 16 < point then scientific 2 ds point else pointed ds point
      (if negative then "-" else "") ++ body

end PullReview.Number
