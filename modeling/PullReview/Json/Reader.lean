import PullReview.Json
import PullReview.Number.Binary64
import PullReview.Number.Whole

/-!
# Reading JSON

The whole text must be one value. Besides the standard forms the words for not-a-number and the
infinities are numbers. Of members with one name the last counts, in the place of the first. The
digits of a whole number may have a limit.
-/

namespace PullReview.Json

inductive ReadError where
  | malformed
  | tooManyDigits (e : Number.TooManyDigits)
  deriving DecidableEq, Repr

def skipBlanks (cs : List Char) : List Char :=
  cs.dropWhile fun c => c == ' ' || c == '\t' || c == '\n' || c == '\r'

def hexValue? (c : Char) : Option Nat :=
  if c.isDigit then some (c.toNat - 48)
  else if 'a' ≤ c && c ≤ 'f' then some (c.toNat - 87)
  else if 'A' ≤ c && c ≤ 'F' then some (c.toNat - 55)
  else none

/-- The number in four hexadecimal digits. -/
def unit? (a b c d : Char) : Option Nat := do
  return (((← hexValue? a) * 16 + (← hexValue? b)) * 16 + (← hexValue? c)) * 16 + (← hexValue? d)

def plainEscape? (c : Char) : Option Char :=
  match c with
  | '"' => some '"'
  | '\\' => some '\\'
  | '/' => some '/'
  | 'b' => some '\x08'
  | 'f' => some '\x0c'
  | 'n' => some '\n'
  | 'r' => some '\r'
  | 't' => some '\t'
  | _ => none

/-- The character of a code unit; one half of a pair alone stands for no character. -/
def unitChar (n : Nat) : Char :=
  if 0xD800 ≤ n && n ≤ 0xDFFF then '�' else Char.ofNat n

def isHighHalf (n : Nat) : Bool := 0xD800 ≤ n && n ≤ 0xDBFF

def isLowHalf (n : Nat) : Bool := 0xDC00 ≤ n && n ≤ 0xDFFF

def joinHalves (high low : Nat) : Char :=
  Char.ofNat (0x10000 + (high - 0xD800) * 0x400 + (low - 0xDC00))

/-- The characters up to the closing quote, newest first, and what follows it. `high` is the first
half of a pair that waits for its second. -/
def readString (acc : List Char) (high : Option Nat) :
    List Char → Option (List Char × List Char)
  | [] => none
  | '\\' :: 'u' :: a :: b :: c :: d :: rest =>
      match unit? a b c d with
      | none => none
      | some n =>
          match high with
          | some h =>
              if isLowHalf n then readString (joinHalves h n :: acc) none rest
              else if isHighHalf n then readString (unitChar h :: acc) (some n) rest
              else readString (unitChar n :: unitChar h :: acc) none rest
          | none =>
              if isHighHalf n then readString acc (some n) rest
              else readString (unitChar n :: acc) none rest
  | '\\' :: c :: rest =>
      match plainEscape? c with
      | none => none
      | some x =>
          match high with
          | some h => readString (x :: unitChar h :: acc) none rest
          | none => readString (x :: acc) none rest
  | c :: rest =>
      let acc := match high with | some h => unitChar h :: acc | none => acc
      if c == '"' then some (acc, rest)
      else if c.toNat < 32 || c == '\\' then none
      else readString (c :: acc) none rest

def digitsValue (ds : List Char) : Nat := ds.foldl (fun n c => n * 10 + (c.toNat - 48)) 0

def isNegative (cs : List Char) : Bool := cs.head? == some '-'

def afterSign (cs : List Char) : List Char := if isNegative cs then cs.drop 1 else cs

/-- The digits of a whole part, which has no leading zeros. -/
def wholeDigits (cs : List Char) : List Char :=
  let digits := cs.takeWhile Char.isDigit
  if digits.head? == some '0' then digits.take 1 else digits

def fractionDigits : List Char → List Char
  | '.' :: rest => rest.takeWhile Char.isDigit
  | _ => []

def afterFraction (cs : List Char) : List Char :=
  let fraction := fractionDigits cs
  if fraction.isEmpty then cs else cs.drop (fraction.length + 1)

/-- The length of the mark of an exponent and of its sign. -/
def markLength (cs : List Char) : Nat :=
  let sign := (cs.drop 1).head?
  if sign == some '-' || sign == some '+' then 2 else 1

def exponentDigits (cs : List Char) : List Char :=
  if cs.head? == some 'e' || cs.head? == some 'E' then
    (cs.drop (markLength cs)).takeWhile Char.isDigit
  else []

def exponent (cs : List Char) : Int :=
  let size : Int := digitsValue (exponentDigits cs)
  if isNegative (cs.drop 1) then -size else size

def afterExponent (cs : List Char) : List Char :=
  let digits := exponentDigits cs
  if digits.isEmpty then cs else cs.drop (markLength cs + digits.length)

variable (limit : Option Nat)

/-- A number: sign, whole part, optional fraction and exponent. -/
def readNumber (cs : List Char) : Except ReadError (Json × List Char) :=
  let whole := wholeDigits (afterSign cs)
  let afterWhole := (afterSign cs).drop whole.length
  let fraction := fractionDigits afterWhole
  let last := afterFraction afterWhole
  if whole.isEmpty then .error .malformed
  else if !fraction.isEmpty || !(exponentDigits last).isEmpty then
    let x := Number.ofDecimal (isNegative cs) (digitsValue (whole ++ fraction))
      (exponent last - fraction.length)
    .ok (.float x, afterExponent last)
  else if !Number.within limit whole.length then .error (.tooManyDigits ⟨whole.length⟩)
  else
    let n : Int := digitsValue whole
    .ok (.int (if isNegative cs then -n else n), afterExponent last)

def words : List (String × Json) :=
  [("null", .null), ("true", .bool true), ("false", .bool false), ("NaN", .float (0.0 / 0.0)),
    ("Infinity", .float (1.0 / 0.0)), ("-Infinity", .float (-1.0 / 0.0))]

def readWord (cs : List Char) : Option (Json × List Char) :=
  (words.find? fun w => w.1.toList.isPrefixOf cs).map fun w => (w.2, cs.drop w.1.length)

mutual

/-- A value at the head of a text without leading blanks. The bound is on the values that follow
or enclose one another. -/
def readValue : Nat → List Char → Except ReadError (Json × List Char)
  | 0, _ => .error .malformed
  | bound + 1, cs =>
      match cs with
      | '"' :: rest =>
          match readString [] none rest with
          | some (s, rest) => .ok (.str (String.ofList s.reverse), rest)
          | none => .error .malformed
      | '[' :: rest =>
          match skipBlanks rest with
          | ']' :: rest => .ok (.arr [], rest)
          | rest => readItems bound [] rest
      | '{' :: rest =>
          match skipBlanks rest with
          | '}' :: rest => .ok (.obj [], rest)
          | rest => readMembers bound [] rest
      | _ =>
          match readWord cs with
          | some r => .ok r
          | none => readNumber limit cs

def readItems : Nat → List Json → List Char → Except ReadError (Json × List Char)
  | 0, _, _ => .error .malformed
  | bound + 1, acc, cs => do
      let (value, rest) ← readValue bound cs
      match skipBlanks rest with
      | ',' :: rest => readItems bound (value :: acc) (skipBlanks rest)
      | ']' :: rest => .ok (.arr (value :: acc).reverse, rest)
      | _ => .error .malformed

def readMembers :
    Nat → List (String × Json) → List Char → Except ReadError (Json × List Char)
  | 0, _, _ => .error .malformed
  | bound + 1, acc, cs =>
      match cs with
      | '"' :: rest =>
          match readString [] none rest with
          | none => .error .malformed
          | some (key, rest) =>
              match skipBlanks rest with
              | ':' :: rest => do
                  let (value, rest) ← readValue bound (skipBlanks rest)
                  let acc := setMember acc (String.ofList key.reverse) value
                  match skipBlanks rest with
                  | ',' :: rest => readMembers bound acc (skipBlanks rest)
                  | '}' :: rest => .ok (.obj acc, rest)
                  | _ => .error .malformed
              | _ => .error .malformed
      | _ => .error .malformed

end

/-- The value that a text is, if its whole numbers are within the limit. -/
def readWithin (text : String) : Except ReadError Json := do
  let cs := text.toList
  let (value, rest) ← readValue limit (cs.length + 1) (skipBlanks cs)
  if (skipBlanks rest).isEmpty then .ok value else .error .malformed

def read (text : String) : Except ReadError Json := readWithin (some Number.digitLimit) text

end PullReview.Json
