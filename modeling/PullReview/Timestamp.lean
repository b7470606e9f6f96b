import PullReview.Number.Decimal

/-!
# Timestamps

A moment as the date and time of day, in the proleptic calendar.
-/

namespace PullReview

structure Date where
  year : Nat
  month : Nat
  day : Nat
  deriving DecidableEq, Repr

/-- The date that lies a number of days after the first of January 1970. Years are counted from
March, so that a leap day ends its year. -/
def Date.ofDays (days : Nat) : Date :=
  let shifted := days + 719468
  let era := shifted / 146097
  let dayOfEra := shifted % 146097
  let yearOfEra := (dayOfEra - dayOfEra / 1460 + dayOfEra / 36524 - dayOfEra / 146096) / 365
  let dayOfYear := dayOfEra - (365 * yearOfEra + yearOfEra / 4 - yearOfEra / 100)
  let fromMarch := (5 * dayOfYear + 2) / 153
  let month := if fromMarch < 10 then fromMarch + 3 else fromMarch - 9
  { year := yearOfEra + era * 400 + (if month ≤ 2 then 1 else 0)
    month := month
    day := dayOfYear - (153 * fromMarch + 2) / 5 + 1 }

example : Date.ofDays 0 = ⟨1970, 1, 1⟩ := by decide

example : Date.ofDays 19782 = ⟨2024, 2, 29⟩ := by decide

/-- A number of seconds after the start of 1970, and of microseconds, as a text. -/
def timestamp (seconds micros : Nat) : String :=
  let two (n : Nat) : String := Number.zeroPad 2 (toString n)
  let date := Date.ofDays (seconds / 86400)
  let time := seconds % 86400
  toString date.year ++ "-" ++ two date.month ++ "-" ++ two date.day ++ "T" ++ two (time / 3600) ++
    ":" ++ two (time / 60 % 60) ++ ":" ++ two (time % 60) ++ "." ++
    Number.zeroPad 6 (toString micros)

end PullReview
