import StageParity.Script.Tool.Basic

/-!
# Times

The program that shows the time. Times are counted in seconds from the start of 1970.
-/

namespace StageParity.Script

namespace Tool

open Step

structure Moment where
  year : Int
  month : Nat
  day : Nat
  weekday : Nat
  yearDay : Nat
  second : Nat

namespace Moment

/-- The days before a month in years without a leap day. -/
def daysBefore : List Nat := [0, 31, 59, 90, 120, 151, 181, 212, 243, 273, 304, 334]

def isLeap (year : Int) : Bool := (year % 4 = 0 && year % 100 ≠ 0) || year % 400 = 0

def daysToYear (year : Int) : Int :=
  let y := year - 1
  365 * (year - 1970) + (Int.fdiv y 4 - Int.fdiv y 100 + Int.fdiv y 400) - 477

def daysToMonth (year : Int) (month : Nat) : Nat :=
  daysBefore.getD (month - 1) 0 + (if 2 < month && isLeap year then 1 else 0)

def ofSeconds (seconds : Int) : Moment :=
  let days := Int.fdiv seconds 86400
  let guess := 1970 + Int.fdiv days 366
  let year := ((List.range 3000).map fun (i : Nat) => guess + (i : Int)).find? (fun y => days < daysToYear (y + 1))
    |>.getD guess
  let yearDay := (days - daysToYear year).toNat
  let month := ((List.range 12).map (· + 1)).foldl (fun found m =>
    if daysToMonth year m ≤ yearDay then m else found) 1
  ⟨year, month, yearDay - daysToMonth year month + 1, ((days + 4) % 7).toNat, yearDay + 1,
    (seconds - 86400 * days).toNat⟩

def weekdays : List String :=
  ["Sunday", "Monday", "Tuesday", "Wednesday", "Thursday", "Friday", "Saturday"]

def months : List String :=
  ["January", "February", "March", "April", "May", "June", "July", "August", "September", "October", "November",
   "December"]

def filled (fill : Char) (width n : Nat) : Text :=
  let digits := Text.ofNat n
  List.replicate (width - digits.length) (.char fill) ++ digits

/-- The text of a directive, if it has a meaning. Directives that stand for others are
given by those. -/
def directive (m : Moment) (seconds : Int) (letter : Char) : Option (Text ⊕ String) :=
  let hour := m.second / 3600
  let half := if hour % 12 = 0 then 12 else hour % 12
  let weekday := weekdays.getD m.weekday ""
  let month := months.getD (m.month - 1) ""
  let short := fun (s : String) => Text.ofChars (s.toList.take 3)
  let two := filled '0' 2
  let text := fun (t : Text) => some (Sum.inl t)
  match letter with
  | 'Y' => text (Text.ofInt m.year)
  | 'C' => text (two (m.year.toNat / 100))
  | 'y' => text (two (m.year.toNat % 100))
  | 'm' => text (two m.month)
  | 'd' => text (two m.day)
  | 'e' => text (filled ' ' 2 m.day)
  | 'H' => text (two hour)
  | 'k' => text (filled ' ' 2 hour)
  | 'I' => text (two half)
  | 'l' => text (filled ' ' 2 half)
  | 'M' => text (two (m.second / 60 % 60))
  | 'S' => text (two (m.second % 60))
  | 'N' => text "000000000"
  | 's' => text (Text.ofInt seconds)
  | 'j' => text (filled '0' 3 m.yearDay)
  | 'q' => text (Text.ofNat ((m.month + 2) / 3))
  | 'u' => text (Text.ofNat (if m.weekday = 0 then 7 else m.weekday))
  | 'w' => text (Text.ofNat m.weekday)
  | 'U' => text (two ((m.yearDay + 6 - m.weekday) / 7))
  | 'W' => text (two ((m.yearDay + 6 - (m.weekday + 6) % 7) / 7))
  | 'a' => text (short weekday)
  | 'A' => text (Text.ofString weekday)
  | 'b' | 'h' => text (short month)
  | 'B' => text (Text.ofString month)
  | 'p' => text (if hour < 12 then Text.ofString "AM" else "PM")
  | 'P' => text (if hour < 12 then Text.ofString "am" else "pm")
  | 'Z' => text "UTC"
  | 'z' => text "+0000"
  | 'n' => text "\n"
  | 't' => text "\t"
  | '%' => text "%"
  | 'F' => some (.inr "%Y-%m-%d")
  | 'T' | 'X' => some (.inr "%H:%M:%S")
  | 'R' => some (.inr "%H:%M")
  | 'D' | 'x' => some (.inr "%m/%d/%y")
  | 'r' => some (.inr "%I:%M:%S %p")
  | 'c' => some (.inr "%a %b %e %H:%M:%S %Y")
  | _ => none

def shown (m : Moment) (seconds : Int) : (fuel : Nat) → Text → Text
  | 0, t => t
  | _, [] => []
  | fuel + 1, .char '%' :: .char c :: rest =>
    match m.directive seconds c with
    | some (.inl t) => t ++ m.shown seconds fuel rest
    | some (.inr format) => m.shown seconds fuel (Text.ofString format ++ rest)
    | none => .char '%' :: .char c :: m.shown seconds fuel rest
  | fuel + 1, g :: rest => g :: m.shown seconds fuel rest

end Moment

/-- The seconds that a text stands for: a number after a sign, or a day. -/
def secondsOf? (t : Text) : Option Int :=
  match t with
  | .char '@' :: rest => Arithmetic.wholeNumber? true rest
  | _ =>
    match (Text.splitOn (.char '-') t).map digits? with
    | [some year, some month, some day] =>
      if 1 ≤ month && month ≤ 12 && 1 ≤ day && day ≤ 31 then
        some (86400 * (Moment.daysToYear year + Moment.daysToMonth year month + day - 1))
      else none
    | _ => none

def startTime : Int := 1750000000

def date (arguments : List Text) : Step Nat :=
  let spec := OptionSpec.of "ud:RI" [("utc", 'u'), ("date", 'd'), ("rfc-email", 'R'), ("iso-8601", 'I')]
  withOptions spec 1 arguments fun given => do
    let now := startTime + ((← get).clock.toUInt64.toNat : Int)
    let asked := (given.value? 'd').map fun t => (t, secondsOf? t)
    match asked, given.operands with
    | some (t, none), _ =>
      report ("invalid date " ++ alwaysQuoted t)
      return 1
    | _, _ :: extra :: _ => misused 1 ("extra operand " ++ alwaysQuoted extra)
    | asked, operands =>
      let seconds := (asked.bind Prod.snd).getD now
      let put := fun (format : Text) =>
        writeLine ((Moment.ofSeconds seconds).shown seconds (8 * format.length + 64) format)
      match operands with
      | (.char '+' :: format) :: _ =>
        put format
        return 0
      | t :: _ =>
        report ("invalid date " ++ alwaysQuoted t)
        return 1
      | [] =>
        put (if given.has 'I' then "%F" else if given.has 'R' then "%a, %d %b %Y %T %z" else "%a %b %e %T %Z %Y")
        return 0

end Tool

end StageParity.Script
