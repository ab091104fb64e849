/-!
Dates and times of day of the Gregorian calendar for the years 1 to 9999, with or without an offset
from universal time.
-/

namespace SchemaChecks

def padded (width n : Nat) : List Char :=
  let digits := Nat.toDigits 10 n
  List.replicate (width - digits.length) '0' ++ digits

structure Date where
  year : Nat
  month : Nat
  day : Nat
  deriving DecidableEq, Repr

structure Moment where
  date : Date
  hour : Nat
  minute : Nat
  second : Nat
  microsecond : Nat
  /-- Minutes ahead of universal time; `none` for a local time. -/
  offset : Option Int
  deriving DecidableEq, Repr

inductive CalendarError where
  | yearOutOfRange (year : Nat)
  | monthOutOfRange
  | dayOutOfRange
  | hourOutOfRange
  | minuteOutOfRange
  | secondOutOfRange
  | offsetOutOfRange (minutes : Int)
  deriving DecidableEq, Repr

def isLeapYear (y : Nat) : Bool := y % 4 = 0 && (y % 100 ≠ 0 || y % 400 = 0)

def daysInMonth (y m : Nat) : Nat :=
  if m = 2 then (if isLeapYear y then 29 else 28)
  else if m = 4 || m = 6 || m = 9 || m = 11 then 30 else 31

namespace Date

def make (year month day : Nat) : Except CalendarError Date :=
  if year < 1 || 9999 < year then .error (.yearOutOfRange year)
  else if month < 1 || 12 < month then .error .monthOutOfRange
  else if day < 1 || daysInMonth year month < day then .error .dayOutOfRange
  else .ok ⟨year, month, day⟩

def text (d : Date) : List Char :=
  padded 4 d.year ++ '-' :: padded 2 d.month ++ '-' :: padded 2 d.day

def dayNumber (d : Date) : Nat :=
  let y := d.year - 1
  let months := (List.range (d.month - 1)).foldl (fun n m => n + daysInMonth d.year (m + 1)) 0
  365 * y + y / 4 - y / 100 + y / 400 + months + (d.day - 1)

end Date

def spanText (minutes : Int) : String :=
  let days := minutes.fdiv 1440
  let seconds := minutes.fmod 1440 * 60
  let parts := (if days = 0 then [] else ["days=" ++ toString days]) ++
    (if seconds = 0 then [] else ["seconds=" ++ toString seconds])
  "datetime.timedelta(" ++ (if parts.isEmpty then "0" else ", ".intercalate parts) ++ ")"

namespace Moment

def make (date : Date) (hour minute second microsecond : Nat) (offset : Option Int) :
    Except CalendarError Moment :=
  if 23 < hour then .error .hourOutOfRange
  else if 59 < minute then .error .minuteOutOfRange
  else if 59 < second then .error .secondOutOfRange
  else .ok ⟨date, hour, minute, second, microsecond, offset⟩

def offsetText (minutes : Int) : List Char :=
  let n := minutes.natAbs
  (if minutes < 0 then '-' else '+') :: padded 2 (n / 60) ++ ':' :: padded 2 (n % 60)

/-- The date, `separator`, the time with its microseconds unless there are none, and the offset. -/
def text (separator : Char) (t : Moment) : List Char :=
  t.date.text ++ separator :: padded 2 t.hour ++ ':' :: padded 2 t.minute ++ ':' ::
    padded 2 t.second ++
    (if t.microsecond = 0 then [] else '.' :: padded 6 t.microsecond) ++
    (match t.offset with
     | none => []
     | some minutes => offsetText minutes)

def clock (t : Moment) : Int :=
  ((t.date.dayNumber * 24 + t.hour) * 60 + t.minute) * 60000000 + t.second * 1000000 +
    t.microsecond

/-- The same instant; a local time is never the same as one with an offset. -/
def sameInstant (s t : Moment) : Bool :=
  match s.offset, t.offset with
  | none, none => s.clock = t.clock
  | some a, some b => s.clock - a * 60000000 = t.clock - b * 60000000
  | _, _ => false

end Moment

def CalendarError.message : CalendarError → String
  | .yearOutOfRange year => "year " ++ toString year ++ " is out of range"
  | .monthOutOfRange => "month must be in 1..12"
  | .dayOutOfRange => "day is out of range for month"
  | .hourOutOfRange => "hour must be in 0..23"
  | .minuteOutOfRange => "minute must be in 0..59"
  | .secondOutOfRange => "second must be in 0..59"
  | .offsetOutOfRange minutes =>
    "offset must be a timedelta strictly between -timedelta(hours=24) and " ++
      "timedelta(hours=24), not " ++ spanText minutes ++ "."

end SchemaChecks
