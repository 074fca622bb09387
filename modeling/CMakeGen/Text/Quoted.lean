import CMakeGen.Text.Printable

/-!
# Quoted text

A text in a message stands between quotes, and whatever would not be seen or would end it is
written as an escape. The quotes are single ones unless the text holds a single quote and no
double one.
-/

namespace CMakeGen.Text

/-- The digits of a number in base sixteen, in lower case, at least `width` of them. -/
def hexDigits (width n : Nat) : List Char :=
  let digits := Nat.toDigits 16 n
  List.replicate (width - digits.length) '0' ++ digits

/-- The quote that a text is written between. -/
def quoteMark (s : List Char) : Char :=
  if s.contains '\'' && ! s.contains '"' then '"' else '\''

/-- One character of a text between two of `mark`. -/
def quoteChar (mark c : Char) : List Char :=
  if c = mark || c = '\\' then ['\\', c]
  else if c = '\t' then ['\\', 't']
  else if c = '\n' then ['\\', 'n']
  else if c = '\r' then ['\\', 'r']
  else if isPrintable c then [c]
  else if c.toNat ≤ 0xFF then '\\' :: 'x' :: hexDigits 2 c.toNat
  else if c.toNat ≤ 0xFFFF then '\\' :: 'u' :: hexDigits 4 c.toNat
  else '\\' :: 'U' :: hexDigits 8 c.toNat

/-- A text as it is shown in a message. -/
def quote (s : String) : String :=
  let mark := quoteMark s.toList
  String.ofList (mark :: s.toList.flatMap (quoteChar mark) ++ [mark])

end CMakeGen.Text
