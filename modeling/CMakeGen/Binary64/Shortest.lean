import CMakeGen.Binary64.Basic

/-!
# The shortest decimal of a binary number

Of the decimals that round to a given binary64 value, the text of the value shows the one with
the fewest digits, and of those the one nearest to the value; of two equally near ones, the
even one. The decimals that round to `m · 2 ^ q` fill an interval around it that reaches half
way to each neighbour, its ends included when `m` is even. A grid of decimals has a point in
the interval only if one of the value's two neighbours on that grid is in it, so it is enough
to test these two, for one digit, for two, and so on up to seventeen.
-/

namespace CMakeGen.Binary64

/-- `digits · 10 ^ exponent`. -/
structure Decimal where
  digits : Nat
  exponent : Int
deriving DecidableEq

/-- The reals that round to a value: three numerators over one denominator, and whether the
ends round to the value too. -/
structure Interval where
  low : Nat
  value : Nat
  high : Nat
  denominator : Nat
  closed : Bool

namespace Interval

/-- The interval around `mantissa · 2 ^ exponent`. The neighbour below a power of two is half
as far away as the one above. -/
def around (mantissa : Nat) (exponent : Int) : Interval :=
  let below := if mantissa = Nat.pow 2 52 ∧ minExponent < exponent then 1 else 2
  let (unit, denominator) := match exponent - 2 with
    | .ofNat e => (Nat.pow 2 e, 1)
    | .negSucc e => (1, Nat.pow 2 (e + 1))
  { low := (4 * mantissa - below) * unit
    value := 4 * mantissa * unit
    high := (4 * mantissa + 2) * unit
    denominator
    closed := mantissa % 2 = 0 }

/-- Whether a decimal rounds to the value. -/
def holds (i : Interval) (d : Decimal) : Bool :=
  let (point, scale) := match d.exponent with
    | .ofNat e => (d.digits * Nat.pow 10 e * i.denominator, 1)
    | .negSucc e => (d.digits * i.denominator, Nat.pow 10 (e + 1))
  if i.closed then i.low * scale ≤ point && point ≤ i.high * scale
  else i.low * scale < point && point < i.high * scale

/-- The value in units of `10 ^ exponent`, as a fraction. -/
def inTens (i : Interval) : Int → Nat × Nat
  | .ofNat e => (i.value, i.denominator * Nat.pow 10 e)
  | .negSucc e => (i.value * Nat.pow 10 (e + 1), i.denominator)

/-- The point of the grid `10 ^ exponent` that rounds to the value, the nearer one if there
are two. -/
def gridPoint? (i : Interval) (exponent : Int) : Option Decimal :=
  let (numerator, denominator) := i.inTens exponent
  let below : Decimal := ⟨numerator / denominator, exponent⟩
  let above : Decimal := ⟨numerator / denominator + 1, exponent⟩
  match i.holds below, i.holds above with
  | true, true =>
    some (if roundHalfEven numerator denominator = below.digits then below else above)
  | true, false => some below
  | false, true => some above
  | false, false => none

/-- The first hit on the grids from `exponent` down, at most `grids` of them; if none is hit,
the point of the last grid at or below the value. -/
def search (i : Interval) (exponent : Int) : Nat → Decimal
  | 0 => let (n, d) := i.inTens exponent; ⟨n / d, exponent⟩
  | grids + 1 =>
    match i.gridPoint? exponent with
    | some d => d
    | none => search i (exponent - 1) grids

/-- The place of the leading digit of the value, or the place after it if the value is a
power of ten below one. -/
def leadingPlace (i : Interval) : Int :=
  if i.denominator ≤ i.value then ((Nat.toDigits 10 (i.value / i.denominator)).length : Int) - 1
  else -((Nat.toDigits 10 (i.denominator / i.value)).length : Int)

end Interval

/-- A decimal without trailing zeros; `fuel` bounds how many are dropped. -/
def Decimal.trim (d : Decimal) : Nat → Decimal
  | 0 => d
  | fuel + 1 =>
    if d.digits % 10 = 0 then Decimal.trim ⟨d.digits / 10, d.exponent + 1⟩ fuel else d

/-- The shortest decimal that rounds to `mantissa · 2 ^ exponent`, which is not zero. -/
def shortest (mantissa : Nat) (exponent : Int) : Decimal :=
  let i := Interval.around mantissa exponent
  (i.search i.leadingPlace 18).trim 18

end CMakeGen.Binary64
