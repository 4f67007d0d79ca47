import StageParity.Yaml.Tag
import StageParity.Yaml.Value

/-!
# Dates

Days and moments. A moment may have a zone; the instant that it stands for is then known.
-/

namespace StageParity.Yaml

namespace Date

def daysIn (year month : Nat) : Nat :=
  if month = 2 then
    if year % 4 = 0 && (year % 100 ≠ 0 || year % 400 = 0) then 29 else 28
  else if month = 4 || month = 6 || month = 9 || month = 11 then 30
  else 31

def twoDigits (n : Nat) : Text := if n < 10 then .char '0' :: Text.ofNat n else Text.ofNat n

def fourDigits (n : Nat) : Text :=
  List.replicate (4 - (Text.ofNat n).length) (.char '0') ++ Text.ofNat n

def dateText (year month day : Nat) : Text :=
  fourDigits year ++ "-" ++ twoDigits month ++ "-" ++ twoDigits day

/-- The text of a fraction of a second, in six digits unless it is zero. -/
def fractionText (digits : List Char) : Text :=
  let six := (digits ++ List.replicate 6 '0').take 6
  if six.all (· == '0') then [] else "." ++ Text.ofChars six

def zoneText (minutes : Int) : Text :=
  let size := minutes.natAbs
  (if minutes < 0 then Text.ofString "-" else "+") ++ twoDigits (size / 60) ++ ":" ++
    twoDigits (size % 60)

/-- The seconds of a zone that is a day or more away, as days and seconds. -/
def spanText (minutes : Int) : Text :=
  let days := minutes.fdiv 1440
  let seconds := minutes.fmod 1440 * 60
  "datetime.timedelta(" ++
    Text.join ", " ((if days = 0 then [] else ["days=" ++ Text.ofInt days]) ++
      (if seconds = 0 then [] else ["seconds=" ++ Text.ofInt seconds])) ++ ")"

/-- How many days there are before a day, counted from the first day of March of year zero. -/
def dayNumber (year month day : Nat) : Int :=
  let y : Int := if month ≤ 2 then (year : Int) - 1 else year
  let m := (month + 9) % 12
  365 * y + y / 4 - y / 100 + y / 400 + (153 * m + 2) / 5 + day

/-- How many millionths of a second a fraction of a second has. -/
def millionths (digits : List Char) : Nat :=
  Decimal.digitsValue ((digits ++ List.replicate 6 '0').take 6)

/-- The value of the fields of a date, if there is such a day. -/
def ofTimestamp (t : Form.Timestamp) : Except Fault Value := do
  if let some zone := t.zone then
    if 1440 ≤ zone.natAbs then
      throw (.badValue ("offset must be a timedelta strictly between -timedelta(hours=24) and " ++
        "timedelta(hours=24), not " ++ spanText zone ++ "."))
  if t.year = 0 then throw (.badValue ("year " ++ Text.ofNat t.year ++ " is out of range"))
  if t.month < 1 || 12 < t.month then throw (.badValue "month must be in 1..12")
  if t.day < 1 || daysIn t.year t.month < t.day then
    throw (.badValue "day is out of range for month")
  match t.time with
  | none => return .date t.year t.month t.day
  | some (hour, minute, second, fraction) =>
    if 23 < hour then throw (.badValue "hour must be in 0..23")
    if 59 < minute then throw (.badValue "minute must be in 0..59")
    if 59 < second then throw (.badValue "second must be in 0..59")
    let stamp := dateText t.year t.month t.day ++ "T" ++ twoDigits hour ++ ":" ++
      twoDigits minute ++ ":" ++ twoDigits second ++ fractionText fraction ++
      (t.zone.map zoneText).getD []
    return .moment stamp (t.zone.map fun zone =>
      let minutes := (dayNumber t.year t.month t.day * 24 + hour) * 60 + minute - zone
      (minutes * 60 + second) * 1000000 + millionths fraction)

def ofScalar (t : Text) : Except Fault Value :=
  match t.chars?.bind fun cs => Form.timestamp? (Form.withoutBreak cs) with
  | some found => ofTimestamp found
  | none => .error .notTimestamp

end Date

end StageParity.Yaml
