import PullReview.Number.Decimal
import PullReview.Number.Reading

/-!
# Dates and times

A date, a time of day, or both, then perhaps with the distance from universal time. The parts of a
date stand at fixed places of a text, whatever stands between them.
-/

namespace PullReview.Toml

/-! ### Days and times of day -/

def isLeapYear (year : Nat) : Bool :=
  year % 4 == 0 && (year % 100 != 0 || year % 400 == 0)

def daysIn (year month : Nat) : Nat :=
  if month == 2 then if isLeapYear year then 29 else 28
  else if [4, 6, 9, 11].contains month then 30
  else 31

/-- A day of the calendar. -/
structure Day where
  year : Nat
  month : Nat
  day : Nat
  year_range : 1 ≤ year ∧ year ≤ 9999
  month_range : 1 ≤ month ∧ month ≤ 12
  day_range : 1 ≤ day ∧ day ≤ daysIn year month
  deriving DecidableEq, Repr

def Day.of? (year month day : Nat) : Option Day :=
  if h : (1 ≤ year ∧ year ≤ 9999) ∧ (1 ≤ month ∧ month ≤ 12) ∧ 1 ≤ day ∧ day ≤ daysIn year month
  then some ⟨year, month, day, h.1, h.2.1, h.2.2⟩
  else none

/-- A time of day. -/
structure Clock where
  hour : Nat
  minute : Nat
  second : Nat
  micros : Nat
  hour_lt : hour < 24
  minute_lt : minute < 60
  second_lt : second < 60
  micros_lt : micros < 1000000
  deriving DecidableEq, Repr

def Clock.of? (hour minute second micros : Nat) : Option Clock :=
  if h : hour < 24 ∧ minute < 60 ∧ second < 60 ∧ micros < 1000000 then
    some ⟨hour, minute, second, micros, h.1, h.2.1, h.2.2.1, h.2.2.2⟩
  else none

/-- The distance from universal time is in minutes to the east. -/
inductive Moment where
  | date (day : Day)
  | time (clock : Clock)
  | both (day : Day) (clock : Clock) (offset : Option Int)
  deriving DecidableEq, Repr

/-! ### Texts -/

def padded (width n : Nat) : String := Number.zeroPad width (toString n)

def Day.text (d : Day) : String :=
  padded 4 d.year ++ "-" ++ padded 2 d.month ++ "-" ++ padded 2 d.day

/-- Microseconds are left out if there are none. -/
def Clock.text (c : Clock) : String :=
  padded 2 c.hour ++ ":" ++ padded 2 c.minute ++ ":" ++ padded 2 c.second ++
    (if c.micros == 0 then "" else "." ++ padded 6 c.micros)

def offsetText (minutes : Int) : String :=
  (if minutes < 0 then "-" else "+") ++ padded 2 (minutes.natAbs / 60) ++ ":" ++
    padded 2 (minutes.natAbs % 60)

namespace Moment

/-- A moment with a given text between date and time. -/
def textWith (gap : String) : Moment → String
  | date d => d.text
  | time c => c.text
  | both d c offset => d.text ++ gap ++ c.text ++ (offset.map offsetText).getD ""

/-- A moment as it stands in a file. Universal time has a letter of its own. -/
def text : Moment → String
  | both d c (some 0) => d.text ++ "T" ++ c.text ++ "Z"
  | m => m.textWith "T"

def typeWord : Moment → String
  | date _ => "datetime.date"
  | time _ => "datetime.time"
  | both .. => "datetime.datetime"

/-- Dates may stand in one array with and without a time. -/
def sameKind : Moment → Moment → Bool
  | time _, time _ => true
  | time _, _ | _, time _ => false
  | _, _ => true

end Moment

/-! ### Reading -/

private def wholeOf? (cs : List Char) : Option Int :=
  (Number.parseWhole (String.ofList cs)).toOption.join

/-- The number at a place of a text. -/
private def partAt? (cs : List Char) (place width : Nat) : Option Nat := do
  (← wholeOf? ((cs.drop place).take width)).toNat?

/-- The distance from universal time, which may be a single letter. -/
def offset? (cs : List Char) : Option Int :=
  if cs == ['Z'] then some 0
  else do
    let hours ← wholeOf? ((cs.drop 1).take 2)
    let minutes ← wholeOf? ((cs.drop 4).take 2)
    let distance := hours * 60 + minutes
    return if cs.head? == some '-' then -distance else distance

/-- A fraction of a second, and the distance from universal time behind it. -/
private def splitFraction (cs : List Char) : List Char × Option (List Char) :=
  if cs.getLast?.map Char.toUpper == some 'Z' then (cs.dropLast, some ['Z'])
  else
    let sign := if cs.contains '+' then '+' else '-'
    let (fraction, zone) := cs.span (· != sign)
    (fraction, if zone.isEmpty then none else some zone)

private def microsOf (cs : List Char) (n : Nat) : Nat :=
  if cs.length ≤ 6 then n * Nat.pow 10 (6 - cs.length) else n / Nat.pow 10 (cs.length - 6)

/-- What stands behind the seconds. It is passed over if it cannot be read. -/
def afterSeconds : List Char → Nat × Option Int
  | '.' :: rest =>
      let (fraction, zone) := splitFraction rest
      let read? : Option (Nat × Option Int) := do
        let offset ← zone.mapM offset?
        let n ← (← wholeOf? fraction).toNat?
        return (microsOf fraction n, offset)
      read?.getD (0, none)
  | cs => (0, offset? cs)

/-- A date, with a time if the text goes on behind it. -/
def date? (cs : List Char) : Option Moment := do
  if !(cs.drop 1).contains '-' then none
  let part (place width : Nat) : Option Nat := partAt? cs place width
  let day ← Day.of? (← part 0 4) (← part 5 2) (← part 8 2)
  if cs.length == 10 then return .date day
  let (micros, offset) := afterSeconds (cs.drop 19)
  let clock ← Clock.of? (← part 11 2) (← part 14 2) (← part 17 2) micros
  return .both day clock offset

/-- The parts of a time of day at the start of a text. From three to six digits behind a point are
taken for microseconds. -/
def clockParts? (cs : List Char) : Option (Nat × Nat × Nat × Nat) :=
  match cs.take 8 with
  | [a, b, ':', c, d, ':', e, f] =>
      if [a, b, c, d, e, f].all Char.isDigit then do
        return (← partAt? cs 0 2, ← partAt? cs 3 2, ← partAt? cs 6 2, micros (cs.drop 8))
      else none
  | _ => none
where
  micros : List Char → Nat
    | '.' :: rest =>
        let ds := (rest.takeWhile Char.isDigit).take 6
        if ds.length < 3 then 0 else (partAt? ds 0 6).getD 0
    | _ => 0

end PullReview.Toml
