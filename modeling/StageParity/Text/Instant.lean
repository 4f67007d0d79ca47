import StageParity.Text.Glyph

/-!
# Instants

The text of a moment in time: date and time of day.
-/

namespace StageParity

/-- A moment, in microseconds since the start of 1970. -/
structure Instant where
  micros : Nat

namespace Instant

/-- A number with at least `width` digits. -/
def padded (width n : Nat) : Text :=
  let digits := Text.ofNat n
  List.replicate (width - digits.length) (.char '0') ++ digits

/-- The year, the month and the day that lie some days after the start of 1970. Years
are counted from March, so that the leap day ends them. -/
def date (days : Nat) : Nat × Nat × Nat :=
  let shifted := days + 719468
  let era := shifted / 146097
  let dayOfEra := shifted % 146097
  let yearOfEra := (dayOfEra - dayOfEra / 1460 + dayOfEra / 36524 - dayOfEra / 146096) / 365
  let dayOfYear := dayOfEra - (365 * yearOfEra + yearOfEra / 4 - yearOfEra / 100)
  let monthFromMarch := (5 * dayOfYear + 2) / 153
  let day := dayOfYear - (153 * monthFromMarch + 2) / 5 + 1
  let month := if monthFromMarch < 10 then monthFromMarch + 3 else monthFromMarch - 9
  (400 * era + yearOfEra + (if month ≤ 2 then 1 else 0), month, day)

/-- The text of a moment. A fraction of a second is written only if there is one. -/
def text (i : Instant) : Text :=
  let seconds := i.micros / 1000000
  let fraction := i.micros % 1000000
  let (year, month, day) := date (seconds / 86400)
  let clock := seconds % 86400
  let front := padded 4 year ++ "-" ++ padded 2 month ++ "-" ++ padded 2 day ++ "T" ++
    padded 2 (clock / 3600) ++ ":" ++ padded 2 (clock / 60 % 60) ++ ":" ++ padded 2 (clock % 60)
  if fraction = 0 then front else front ++ "." ++ padded 6 fraction

end Instant

end StageParity
