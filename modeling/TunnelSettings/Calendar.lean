/-!
Calendar dates and points in time as settings files may hold them, with their faults and their text.
-/
namespace TunnelSettings

/-- A day of the calendar; its parts may be out of range until they are checked. -/
structure Date where
  year : Nat
  month : Nat
  day : Nat
  deriving DecidableEq, Repr

/-- A point in time; `offset` is the distance from universal time in seconds, where it is known. -/
structure Moment where
  date : Date
  hour : Nat
  minute : Nat
  second : Nat
  microsecond : Nat
  offset : Option Int
  deriving DecidableEq, Repr

inductive CalendarFault where
  | year (n : Nat)
  | month
  | day
  | hour
  | minute
  | second
  /-- The distance from universal time, in seconds, is a day or more. -/
  | offset (seconds : Int)
  deriving DecidableEq, Repr

/-- A length of time in whole days, rounded down, and the seconds left. -/
def daysAndSeconds (seconds : Int) : String :=
  let days := seconds.fdiv 86400
  let rest := seconds.fmod 86400
  let parts := (if days = 0 then [] else ["days=" ++ toString days]) ++
    (if rest = 0 then [] else ["seconds=" ++ toString rest])
  "datetime.timedelta(" ++ (if parts.isEmpty then "0" else ", ".intercalate parts) ++ ")"

def CalendarFault.message : CalendarFault → String
  | year n => "year " ++ toString n ++ " is out of range"
  | month => "month must be in 1..12"
  | day => "day is out of range for month"
  | hour => "hour must be in 0..23"
  | minute => "minute must be in 0..59"
  | second => "second must be in 0..59"
  | offset seconds =>
    "offset must be a timedelta strictly between -timedelta(hours=24) and timedelta(hours=24), not " ++
      daysAndSeconds seconds ++ "."

def isLeap (year : Nat) : Bool := year % 4 = 0 && (year % 100 ≠ 0 || year % 400 = 0)

def daysIn (year month : Nat) : Nat :=
  if month = 2 then (if isLeap year then 29 else 28)
  else if month = 4 || month = 6 || month = 9 || month = 11 then 30
  else 31

/-- A number with at least `width` digits. -/
def paddedNat (width n : Nat) : String :=
  let digits := toString n
  .ofList (List.replicate (width - digits.length) '0') ++ digits

namespace Date

def check (d : Date) : Except CalendarFault Unit :=
  if d.year < 1 || 9999 < d.year then .error (.year d.year)
  else if d.month < 1 || 12 < d.month then .error .month
  else if d.day < 1 || daysIn d.year d.month < d.day then .error .day
  else .ok ()

/-- Days since a fixed day before the first year. -/
def dayNumber (d : Date) : Nat :=
  let y := d.year - 1
  365 * y + y / 4 - y / 100 + y / 400 +
    (List.range' 1 (d.month - 1)).foldl (fun days m => days + daysIn d.year m) 0 + d.day

def text (d : Date) : String :=
  paddedNat 4 d.year ++ "-" ++ paddedNat 2 d.month ++ "-" ++ paddedNat 2 d.day

def literal (d : Date) : String :=
  "datetime.date(" ++ ", ".intercalate ([d.year, d.month, d.day].map toString) ++ ")"

end Date

namespace Moment

def check (t : Moment) : Except CalendarFault Unit := do
  match t.offset with
  | some s => if 86400 ≤ s.natAbs then .error (.offset s)
  | none => .ok ()
  t.date.check
  if 23 < t.hour then .error .hour
  else if 59 < t.minute then .error .minute
  else if 59 < t.second then .error .second
  else .ok ()

def offsetText (seconds : Int) : String :=
  let n := seconds.natAbs
  (if seconds < 0 then "-" else "+") ++ paddedNat 2 (n / 3600) ++ ":" ++ paddedNat 2 (n / 60 % 60)

/-- The text of a point in time, with `between` after the date. -/
def textWith (between : String) (t : Moment) : String :=
  t.date.text ++ between ++ paddedNat 2 t.hour ++ ":" ++ paddedNat 2 t.minute ++ ":" ++
    paddedNat 2 t.second ++
    (if t.microsecond = 0 then "" else "." ++ paddedNat 6 t.microsecond) ++
    (t.offset.map offsetText).getD ""

def literal (t : Moment) : String :=
  let fields := [t.date.year, t.date.month, t.date.day, t.hour, t.minute] ++
    (if t.second = 0 && t.microsecond = 0 then [] else [t.second]) ++
    (if t.microsecond = 0 then [] else [t.microsecond])
  let zone := match t.offset with
    | none => []
    | some s => [if s = 0 then "tzinfo=datetime.timezone.utc"
        else "tzinfo=datetime.timezone(" ++ daysAndSeconds s ++ ")"]
  "datetime.datetime(" ++ ", ".intercalate (fields.map toString ++ zone) ++ ")"

/-- Microseconds since a fixed day, as the clock of the moment's own zone shows them. -/
def clock (t : Moment) : Int :=
  (((t.date.dayNumber * 24 + t.hour) * 60 + t.minute) * 60 + t.second) * 1000000 + t.microsecond

/-- Microseconds by the clock of universal time. -/
def universalClock (t : Moment) (offset : Int) : Int := t.clock - offset * 1000000

/-- Whether two points in time are the same one; a time of known zone differs from any other. -/
def same (s t : Moment) : Bool :=
  match s.offset, t.offset with
  | some a, some b => s.universalClock a = t.universalClock b
  | none, none => s = t
  | _, _ => false

/-- Whether one point in time comes before another, if both have a zone or neither has. -/
def isBefore? (s t : Moment) : Option Bool :=
  match s.offset, t.offset with
  | some a, some b => some (s.universalClock a < t.universalClock b)
  | none, none => some (s.clock < t.clock)
  | _, _ => none

end Moment
end TunnelSettings
