/-!
# Integers in base ten

An integer of any size can be held, but turning one into digits in base ten, or digits into one,
takes a time that grows faster than their number. So there is a limit: a longer text is not read
and a longer integer is not written. Signs do not count. A base that is a power of two needs no
limit, which is how an integer can be read that cannot be written.
-/

namespace CMakeGen

/-- How many digits an integer may have where it is read or written in base ten. -/
def digitLimit : Nat := 4300

/-- How an integer can be beyond the limit. -/
inductive TooManyDigits where
  /-- The text to be read has that many digits. -/
  | reading (digits : Nat)
  | writing
deriving DecidableEq

def TooManyDigits.message (e : TooManyDigits) : String :=
  let measured := match e with
    | .reading digits => ": value has " ++ digits.repr ++ " digits"
    | .writing => ""
  "Exceeds the limit (" ++ digitLimit.repr ++ " digits) for integer string conversion" ++ measured
    ++ "; use sys.set_int_max_str_digits() to increase the limit"

/-- An integer in base ten. -/
def writeInteger (n : Int) : Except TooManyDigits String :=
  if n.natAbs < Nat.pow 10 digitLimit then
    .ok ((if n < 0 then "-" else "") ++ n.natAbs.repr)
  else .error .writing

end CMakeGen
