/-!
# Double-precision numbers, exactly

A finite double is an integer times a power of two. `Datum.ofFloat` takes a double apart and
`nearest` gives the double closest to a fraction, a tie going to the even significand. `single`
keeps as much of a double as single precision has room for.
-/

namespace PullReview.Number

inductive Datum where
  | finite (negative : Bool) (significand : Nat) (exponent : Int)
  | infinite (negative : Bool)
  | nan
  deriving DecidableEq, Repr

/-- The integer nearest to `num / den`; a tie goes to the even one. -/
def roundQuotient (num den : Nat) : Nat :=
  let q := num / den
  let r := num % den
  if 2 * r < den then q
  else if den < 2 * r then q + 1
  else if q % 2 == 0 then q else q + 1

def Datum.ofFloat (x : Float) : Datum :=
  let bits := x.toBits.toNat
  let negative := (bits >>> 63) % 2 == 1
  let field : Nat := (bits >>> 52) % 2048
  let fraction : Nat := bits % (1 <<< 52)
  if field == 2047 then if fraction == 0 then .infinite negative else .nan
  else if field == 0 then .finite negative fraction (-1074)
  else .finite negative ((1 <<< 52) + fraction) ((field : Int) - 1075)

/-- The exponent of the power of two at or below `num / den`, both positive. -/
private def floorLog (num den : Nat) : Int :=
  let guess : Int := (num.log2 : Int) - den.log2
  let below := if guess < 0 then num <<< (-guess).toNat < den else num < den <<< guess.toNat
  if below then guess - 1 else guess

private def wordOf (negative : Bool) (field fraction : Nat) : Float :=
  Float.ofBits (UInt64.ofNat ((if negative then 1 <<< 63 else 0) + (field <<< 52) + fraction))

/-- The double nearest to `num / den`, `den` positive. -/
def nearest (negative : Bool) (num den : Nat) : Float :=
  if num == 0 then wordOf negative 0 0
  else
    let exponent := max (-1074) (floorLog num den - 52)
    let significand :=
      if exponent < 0 then roundQuotient (num <<< (-exponent).toNat) den
      else roundQuotient num (den <<< exponent.toNat)
    if significand < 1 <<< 52 then wordOf negative 0 significand
    else
      let (significand, exponent) :=
        if significand == 1 <<< 53 then (1 <<< 52, exponent + 1) else (significand, exponent)
      if exponent > 971 then wordOf negative 2047 0
      else wordOf negative (exponent + 1075).toNat (significand - (1 <<< 52))

/-- A double rounded to single precision: significands have 24 bits, and what is too large for the
exponents is infinite. -/
def single (x : Float) : Float :=
  match Datum.ofFloat x with
  | .finite negative significand exponent =>
      let unit := max (-149) ((significand.log2 : Int) + exponent - 23)
      let rounded :=
        if unit ≤ exponent then significand <<< (exponent - unit).toNat
        else roundQuotient significand (1 <<< (unit - exponent).toNat)
      let whole := rounded <<< unit.toNat
      if whole ≥ 1 <<< 128 then wordOf negative 2047 0
      else nearest negative whole (1 <<< (-unit).toNat)
  | _ => x

/-- The double nearest to `digits * 10 ^ exponent`. Magnitudes far outside the range of doubles
are settled by their size. -/
def ofDecimal (negative : Bool) (digits : Nat) (exponent : Int) : Float :=
  let size : Int := (Nat.toDigits 10 digits).length + exponent
  if digits == 0 || size < -400 then wordOf negative 0 0
  else if size > 400 then wordOf negative 2047 0
  else if exponent < 0 then nearest negative digits (Nat.pow 10 (-exponent).toNat)
  else nearest negative (digits * Nat.pow 10 exponent.toNat) 1

end PullReview.Number
