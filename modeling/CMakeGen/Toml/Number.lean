import CMakeGen.Document.Value
import CMakeGen.Toml.Text

/-!
# Numbers, dates and times of TOML

A number is the longest prefix that has the shape of one; an underscore may stand between two
digits. What follows is judged by the statement it stands in, so `012` is the number `0` before
something that cannot follow it. A date is tried before a time of day and that before a number,
since all three begin with digits.
-/

namespace CMakeGen.Toml

/-- Digits after a first one, each with an underscore before it or not. -/
def moreDigits (isDigit : Char → Bool) : List Char → List Char × List Char
  | '_' :: c :: rest =>
    if isDigit c then
      let (digits, rest) := moreDigits isDigit rest
      (c :: digits, rest)
    else ([], '_' :: c :: rest)
  | c :: rest =>
    if isDigit c then
      let (digits, rest) := moreDigits isDigit rest
      (c :: digits, rest)
    else ([], c :: rest)
  | [] => ([], [])

/-- Digits, at least one. -/
def digits? (isDigit : Char → Bool) : List Char → Option (List Char × List Char)
  | c :: rest =>
    if isDigit c then
      let (digits, rest) := moreDigits isDigit rest
      some (c :: digits, rest)
    else none
  | [] => none

/-- The number that digits in a base stand for. -/
def ofDigits (base : Nat) (digits : List Char) : Nat :=
  digits.foldl (fun n c => base * n + (hexDigit? c).getD 0) 0

def isBinary (c : Char) : Bool := c = '0' || c = '1'

def isOctal (c : Char) : Bool := '0' ≤ c && c ≤ '7'

def isHex (c : Char) : Bool := (hexDigit? c).isSome

/-- An integer in a base other than ten. -/
def based? : List Char → Option (Value × List Char)
  | '0' :: 'x' :: rest => (digits? isHex rest).map fun (ds, rest) => (.integer (ofDigits 16 ds), rest)
  | '0' :: 'o' :: rest => (digits? isOctal rest).map fun (ds, rest) => (.integer (ofDigits 8 ds), rest)
  | '0' :: 'b' :: rest => (digits? isBinary rest).map fun (ds, rest) => (.integer (ofDigits 2 ds), rest)
  | _ => none

/-- A sign, and whether it is that of a negative number. -/
def sign : List Char → Bool × List Char
  | '-' :: rest => (true, rest)
  | '+' :: rest => (false, rest)
  | cs => (false, cs)

/-- The digits before the point: a zero alone, or digits that begin with another one. -/
def wholePart? : List Char → Option (List Char × List Char)
  | '0' :: rest => some (['0'], rest)
  | cs => digits? Char.isDigit cs

/-- The digits behind the point, if there is one with digits. -/
def fraction? : List Char → Option (List Char × List Char)
  | '.' :: rest => digits? Char.isDigit rest
  | _ => none

/-- The exponent, if there is one. -/
def exponent? : List Char → Option (Int × List Char)
  | e :: rest =>
    if e = 'e' ∨ e = 'E' then
      let (negative, rest) := sign rest
      (digits? Char.isDigit rest).map fun (ds, rest) =>
        (if negative then -(ofDigits 10 ds : Int) else ofDigits 10 ds, rest)
    else none
  | [] => none

/-- A number in base ten: an integer, or with a fraction or an exponent a float. The digits of a
float are not limited. -/
def decimal? (cs : List Char) : Option (Read Value) := do
  let (negative, cs) := sign cs
  let (whole, cs) ← wholePart? cs
  let (fraction, cs, hasFraction) := match fraction? cs with
    | some (ds, rest) => (ds, rest, true)
    | none => ([], cs, false)
  let (exponent, cs, hasExponent) := match exponent? cs with
    | some (e, rest) => (e, rest, true)
    | none => (0, cs, false)
  let n := ofDigits 10 (whole ++ fraction)
  return if hasFraction || hasExponent then
      .ok (.float (.ofDecimal negative n (exponent - fraction.length)), cs)
    else if whole.length ≤ digitLimit then
      .ok (.integer (if negative then -(n : Int) else n), cs)
    else .error (.tooManyDigits whole.length)

/-- The numbers that are written as words. -/
def special? (cs : List Char) : Option (Value × List Char) :=
  let (negative, rest) := sign cs
  match rest with
  | 'i' :: 'n' :: 'f' :: rest => some (.float (.infinite negative), rest)
  | 'n' :: 'a' :: 'n' :: rest => some (.float .nan, rest)
  | _ => none

/-! ## Dates and times -/

/-- A number of exactly `width` digits. -/
def fixed? (width : Nat) (cs : List Char) : Option (Nat × List Char) :=
  let ds := cs.take width
  if ds.length = width ∧ ds.all Char.isDigit then some (ofDigits 10 ds, cs.drop width) else none

/-- A number of two digits that is at most `bound`. -/
def upTo? (bound : Nat) (cs : List Char) : Option (Nat × List Char) := do
  let (n, rest) ← fixed? 2 cs
  if n ≤ bound then some (n, rest) else none

/-- What follows an expected character. -/
def expect? (c : Char) : List Char → Option (List Char)
  | d :: rest => if d = c then some rest else none
  | [] => none

/-- The fraction of a second: digits behind a point, of which six count. -/
def microseconds? : List Char → Option (Nat × List Char)
  | '.' :: rest =>
    let ds := rest.takeWhile Char.isDigit
    if ds = [] then none
    else
      let kept := ds.take 6
      some (ofDigits 10 (kept ++ List.replicate (6 - kept.length) '0'), rest.drop ds.length)
  | _ => none

def timeOfDay? (cs : List Char) : Option (TimeOfDay × List Char) := do
  let (hour, cs) ← upTo? 23 cs
  let cs ← expect? ':' cs
  let (minute, cs) ← upTo? 59 cs
  let cs ← expect? ':' cs
  let (second, cs) ← upTo? 59 cs
  let (microsecond, cs) := (microseconds? cs).getD (0, cs)
  return (⟨hour, minute, second, microsecond⟩, cs)

/-- Year, month and day. Whether the month has that day is not asked here. -/
def date? (cs : List Char) : Option (Date × List Char) := do
  let (year, cs) ← fixed? 4 cs
  let cs ← expect? '-' cs
  let (month, cs) ← upTo? 12 cs
  let cs ← expect? '-' cs
  let (day, cs) ← upTo? 31 cs
  if month = 0 ∨ day = 0 then none else return (⟨year, month, day⟩, cs)

/-- The distance from universal time. -/
def offset? : List Char → Option (UtcOffset × List Char)
  | 'Z' :: rest | 'z' :: rest => some (⟨false, 0⟩, rest)
  | c :: rest =>
    if c = '+' ∨ c = '-' then do
      let (hours, rest) ← upTo? 23 rest
      let rest ← expect? ':' rest
      let (minutes, rest) ← upTo? 59 rest
      return (⟨c = '-', 60 * hours + minutes⟩, rest)
    else none
  | [] => none

/-- What follows the character between a date and a time. -/
def expectTime? : List Char → Option (List Char)
  | c :: rest => if c = 'T' ∨ c = 't' ∨ c = ' ' then some rest else none
  | [] => none

/-- A date, with a time of day and an offset if they follow. -/
def dateValue? (cs : List Char) : Option (Read Value) := do
  let (date, cs) ← date? cs
  let (value, cs) := match (expectTime? cs).bind timeOfDay? with
    | none => (Value.date date, cs)
    | some (time, cs) =>
      match offset? cs with
      | some (offset, cs) => (.moment ⟨date, time, some offset⟩, cs)
      | none => (.moment ⟨date, time, none⟩, cs)
  return if date.isDay then .ok (value, cs) else .error .invalidDate

/-- A date, a time of day or a number. -/
def numeric? (cs : List Char) : Option (Read Value) :=
  (dateValue? cs)
    <|> ((timeOfDay? cs).map fun (time, rest) => .ok (.time time, rest))
    <|> ((based? cs).map .ok)
    <|> (decimal? cs)
    <|> ((special? cs).map .ok)

end CMakeGen.Toml
