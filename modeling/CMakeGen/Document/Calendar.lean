import CMakeGen.Text.Quoted

/-!
# Dates and times of a document

A document can hold a date, a time of day, and the two together with or without an offset from
universal time. A value is shown in one of two ways: plainly (`toString`), where a name is
made of it, and as a constructor with its fields (`shown`), where a message reports it. Both
leave out what is zero at the end: the fraction of a second, and in the second form the
seconds too.
-/

namespace CMakeGen

/-- A number with leading zeros up to `width` digits. -/
def padded (width n : Nat) : String :=
  let digits := Nat.toDigits 10 n
  String.ofList (List.replicate (width - digits.length) '0' ++ digits)

/-- A day of the calendar that extends the present one to all years. -/
structure Date where
  year : Nat
  month : Nat
  day : Nat
deriving DecidableEq

/-- A time of day, to the microsecond. -/
structure TimeOfDay where
  hour : Nat
  minute : Nat
  second : Nat
  microsecond : Nat
deriving DecidableEq

/-- A distance from universal time, in minutes, westward if `negative`. -/
structure UtcOffset where
  negative : Bool
  minutes : Nat
deriving DecidableEq

namespace Date

def isLeap (year : Nat) : Bool :=
  year % 4 = 0 && (year % 100 ≠ 0 || year % 400 = 0)

def daysIn (year month : Nat) : Nat :=
  match month with
  | 2 => if isLeap year then 29 else 28
  | 4 | 6 | 9 | 11 => 30
  | _ => 31

/-- Whether the numbers name a day. There is no year zero. -/
def isDay (d : Date) : Bool :=
  1 ≤ d.year && 1 ≤ d.month && d.month ≤ 12 && 1 ≤ d.day && d.day ≤ daysIn d.year d.month

def toString (d : Date) : String :=
  padded 4 d.year ++ "-" ++ padded 2 d.month ++ "-" ++ padded 2 d.day

def fields (d : Date) : List Nat := [d.year, d.month, d.day]

end Date

namespace TimeOfDay

def toString (t : TimeOfDay) : String :=
  let whole := padded 2 t.hour ++ ":" ++ padded 2 t.minute ++ ":" ++ padded 2 t.second
  if t.microsecond = 0 then whole else whole ++ "." ++ padded 6 t.microsecond

def fields (t : TimeOfDay) : List Nat :=
  [t.hour, t.minute] ++
    if t.microsecond ≠ 0 then [t.second, t.microsecond]
    else if t.second ≠ 0 then [t.second] else []

end TimeOfDay

namespace UtcOffset

def toString (o : UtcOffset) : String :=
  (if o.negative ∧ o.minutes ≠ 0 then "-" else "+")
    ++ padded 2 (o.minutes / 60) ++ ":" ++ padded 2 (o.minutes % 60)

/-- An offset is shown as days, which may be negative, and seconds, which may not. -/
def shown (o : UtcOffset) : String :=
  if o.minutes = 0 then "datetime.timezone.utc"
  else
    let delta :=
      if o.negative then "days=-1, seconds=" ++ (86400 - o.minutes * 60).repr
      else "seconds=" ++ (o.minutes * 60).repr
    "datetime.timezone(datetime.timedelta(" ++ delta ++ "))"

end UtcOffset

/-- Numbers separated by commas. -/
def commaSeparated (ns : List Nat) : String := ", ".intercalate (ns.map Nat.repr)

namespace Date

def shown (d : Date) : String := "datetime.date(" ++ commaSeparated d.fields ++ ")"

end Date

namespace TimeOfDay

def shown (t : TimeOfDay) : String := "datetime.time(" ++ commaSeparated t.fields ++ ")"

end TimeOfDay

/-- A date with a time of day, at a given offset if there is one. -/
structure Moment where
  date : Date
  time : TimeOfDay
  offset : Option UtcOffset
deriving DecidableEq

namespace Moment

def toString (m : Moment) : String :=
  m.date.toString ++ " " ++ m.time.toString ++ (m.offset.map UtcOffset.toString).getD ""

def shown (m : Moment) : String :=
  "datetime.datetime(" ++ commaSeparated (m.date.fields ++ m.time.fields)
    ++ (m.offset.map (", tzinfo=" ++ ·.shown)).getD "" ++ ")"

end Moment

end CMakeGen
