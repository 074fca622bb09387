import CMakeGen.Binary64.Shortest

/-!
# The text of a binary number

How the digits of a number are laid out is a decision of the format and is kept in one
record, `Notation`; `documentNotation` is the one that messages and names are written in.
-/

namespace CMakeGen.Binary64

/-- Where positional notation ends, and how an exponent is written. -/
structure Notation where
  /-- The least exponent of the leading digit that is written positionally. -/
  leastPositional : Int
  /-- The least exponent above the positional ones. -/
  leastExponential : Int
  /-- The least number of digits of an exponent. -/
  exponentWidth : Nat

/-- Positional from `1e-4` up to `1e16`, exponents of two digits at least. -/
def documentNotation : Notation := ⟨-4, 16, 2⟩

/-- A number in positional notation, with at least one digit on both sides of the point. -/
def positional (digits : List Char) (exponent : Int) : List Char :=
  match exponent with
  | .ofNat e => digits ++ List.replicate e '0' ++ ['.', '0']
  | .negSucc e =>
    let places := e + 1
    if places < digits.length then
      digits.take (digits.length - places) ++ '.' :: digits.drop (digits.length - places)
    else '0' :: '.' :: List.replicate (places - digits.length) '0' ++ digits

/-- A number with one digit before the point and the exponent of that digit. -/
def exponential (width : Nat) (digits : List Char) (leading : Int) : List Char :=
  let mantissa := match digits with
    | first :: second :: rest => first :: '.' :: second :: rest
    | short => short
  let power := Nat.toDigits 10 leading.natAbs
  mantissa ++ 'e' :: (if leading < 0 then '-' else '+')
    :: List.replicate (width - power.length) '0' ++ power

def Decimal.toChars (style : Notation) (d : Decimal) : List Char :=
  let digits := Nat.toDigits 10 d.digits
  let leading := d.exponent + digits.length - 1
  if style.leastPositional ≤ leading ∧ leading < style.leastExponential then
    positional digits d.exponent
  else exponential style.exponentWidth digits leading

/-- The text of a number. -/
def toChars (style : Notation) : Binary64 → List Char
  | .nan => "nan".toList
  | .infinite negative => (if negative then ['-'] else []) ++ "inf".toList
  | .finite negative mantissa exponent =>
    (if negative then ['-'] else []) ++
      (if mantissa = 0 then positional ['0'] 0
        else (shortest mantissa exponent).toChars style)

def toString (x : Binary64) : String := String.ofList (x.toChars documentNotation)

instance : ToString Binary64 := ⟨toString⟩

end CMakeGen.Binary64
