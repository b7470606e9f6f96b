import PullReview.Number.Binary64
import PullReview.Number.Whole
import PullReview.Text.Blank
import PullReview.Text.Case
import PullReview.Text.Digit

/-!
# Numbers in texts

A number may stand between blanks and have a sign. Digits are those of any script, and single
underscores may stand between them.
-/

namespace PullReview.Number

/-- The digits of a run in which single underscores may stand between two digits. -/
def digitRunFrom : List Char → Option (List Nat)
  | [] => some []
  | '_' :: c :: rest => do return (← Text.digitValue? c) :: (← digitRunFrom rest)
  | c :: rest => do return (← Text.digitValue? c) :: (← digitRunFrom rest)

/-- The digits of a run, which starts with a digit. -/
def digitRun? (cs : List Char) : Option (List Nat) :=
  if cs.head? == some '_' then none else digitRunFrom cs

/-- A sign, if there is one, and the rest. -/
def takeSign : List Char → Bool × List Char
  | '-' :: rest => (true, rest)
  | '+' :: rest => (false, rest)
  | cs => (false, cs)

/-- A whole number, if the text is one. -/
def parseWhole (s : String) : Except TooManyDigits (Option Int) :=
  let (negative, cs) := takeSign (Text.stripBy Text.isBlank s.toList)
  match digitRun? cs with
  | none => .ok none
  | some [] => .ok none
  | some ds => do
      let n : Int := (← readWhole ds)
      return some (if negative then -n else n)

def infinity (negative : Bool) : Float :=
  if negative then -1.0 / 0.0 else 1.0 / 0.0

def named? (negative : Bool) (cs : List Char) : Option Float :=
  let word := Text.lower (String.ofList cs)
  if word == "inf" || word == "infinity" then some (infinity negative)
  else if word == "nan" then some (0.0 / 0.0)
  else none

/-- The exponent after its mark: a sign and at least one digit. -/
def exponent? : List Char → Option Int
  | [] => some 0
  | _ :: rest => do
      let (negative, cs) := takeSign rest
      let ds ← digitRun? cs
      if ds.isEmpty then none
      else
        let n : Int := wholeOfDigits ds
        return if negative then -n else n

/-- A double, if the text is a decimal number or one of the words for what is no number. -/
def parseDouble? (s : String) : Option Float :=
  let (negative, cs) := takeSign (Text.stripBy Text.isBlank s.toList)
  match named? negative cs with
  | some x => some x
  | none => do
      let isMark (c : Char) : Bool := c == 'e' || c == 'E'
      let mantissa := cs.takeWhile fun c => !isMark c
      let e ← exponent? (cs.dropWhile fun c => !isMark c)
      let whole ← digitRun? (mantissa.takeWhile (· != '.'))
      let fraction ← digitRun? ((mantissa.dropWhile (· != '.')).drop 1)
      if whole.isEmpty && fraction.isEmpty then none
      else some (ofDecimal negative (wholeOfDigits (whole ++ fraction)) (e - fraction.length))

/-- Why a double is no whole number. -/
inductive NotWhole where
  | nan
  | infinite
  deriving DecidableEq, Repr

def NotWhole.message : NotWhole → String
  | nan => "cannot convert float NaN to integer"
  | infinite => "cannot convert float infinity to integer"

/-- A double without its fraction. -/
def truncate (x : Float) : Except NotWhole Int :=
  match Datum.ofFloat x with
  | .nan => .error .nan
  | .infinite _ => .error .infinite
  | .finite negative significand exponent =>
      let n : Nat :=
        if exponent < 0 then significand >>> (-exponent).toNat
        else significand <<< exponent.toNat
      .ok (if negative then -(n : Int) else n)

end PullReview.Number
