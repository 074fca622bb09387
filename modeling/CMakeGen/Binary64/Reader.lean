import CMakeGen.Binary64.Notation

/-!
# Reading a number

The text of a number, in positional notation or with an exponent, with digits on at least one
side of the point; the infinities and not-a-number are words. It reads whatever
`Binary64.toString` writes.
-/

namespace CMakeGen.Binary64

/-- The value of decimal digits. -/
def ofDigits (digits : List Char) : Nat :=
  digits.foldl (fun n c => 10 * n + (c.toNat - '0'.toNat)) 0

/-- A text without its sign, and whether that is the sign of a negative number. -/
def splitSign : List Char → Bool × List Char
  | '-' :: rest => (true, rest)
  | '+' :: rest => (false, rest)
  | cs => (false, cs)

/-- The exponent at the end of a number, if what is left is one or nothing. -/
def readExponent? : List Char → Option Int
  | [] => some 0
  | e :: rest =>
    let (negative, digits) := splitSign rest
    if (e = 'e' || e = 'E') && ! digits.isEmpty && digits.all Char.isDigit then
      some (if negative then -(ofDigits digits : Int) else ofDigits digits)
    else none

/-- The number that a text is. -/
def ofString? (text : String) : Option Binary64 :=
  let (negative, cs) := splitSign text.toList
  if cs = "inf".toList then some (.infinite negative)
  else if cs = "nan".toList then some .nan
  else
    let whole := cs.takeWhile Char.isDigit
    let rest := cs.drop whole.length
    let (fraction, rest) := match rest with
      | '.' :: rest => (rest.takeWhile Char.isDigit, rest.dropWhile Char.isDigit)
      | rest => ([], rest)
    if whole.isEmpty && fraction.isEmpty then none
    else (readExponent? rest).map fun exponent =>
      .ofDecimal negative (ofDigits (whole ++ fraction)) (exponent - fraction.length)

end CMakeGen.Binary64
