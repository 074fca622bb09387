import CMakeGen.Document.Integer

/-!
# Scanning TOML

What all parts of the reader share: the ways a text can break the rules, the blanks, and the
characters that may not stand anywhere. A part of the reader takes the characters that are left
and returns what it read together with those that follow.
-/

namespace CMakeGen.Toml

/-- How a text breaks the rules of TOML. -/
inductive Fault where
  | invalidStatement
  | missingNewline
  | invalidKey
  | missingEquals
  | invalidValue
  | invalidDate
  | unterminatedString
  | invalidEscape
  | controlCharacter
  | unclosedArray
  | unclosedTable
  | unclosedHeader
  /-- The table is opened a second time. -/
  | repeatedTable
  /-- The table was written as a value and is complete. -/
  | completeTable
  /-- The key has a value already. -/
  | repeatedKey
  /-- The values are nested more deeply than the text is long. -/
  | tooDeep
  /-- An integer in base ten has that many digits, which is too many. -/
  | tooManyDigits (digits : Nat)
deriving DecidableEq

def Fault.message : Fault → String
  | .invalidStatement => "invalid statement"
  | .missingNewline => "expected the end of the line after a statement"
  | .invalidKey => "invalid first character of a key"
  | .missingEquals => "expected '=' after a key"
  | .invalidValue => "invalid value"
  | .invalidDate => "no such day"
  | .unterminatedString => "unterminated string"
  | .invalidEscape => "invalid escape in a string"
  | .controlCharacter => "control character"
  | .unclosedArray => "unclosed array"
  | .unclosedTable => "unclosed inline table"
  | .unclosedHeader => "unclosed table header"
  | .repeatedTable => "the table is there already"
  | .completeTable => "the table cannot be extended"
  | .repeatedKey => "the key is there already"
  | .tooDeep => "values are nested too deeply"
  | .tooManyDigits digits => (TooManyDigits.reading digits).message

/-- What was read, and the characters that follow. -/
abbrev Read (α : Type) := Except Fault (α × List Char)

def isBlank (c : Char) : Bool := c = ' ' || c = '\t'

def isBlankOrNewline (c : Char) : Bool := isBlank c || c = '\n'

/-- The characters that have no place in a document; a newline is one where a line must not
end. -/
def isForbidden (c : Char) : Bool := (c.toNat < 0x20 && c ≠ '\t') || c.toNat = 0x7F

def skipBlanks (cs : List Char) : List Char := cs.dropWhile isBlank

/-- What follows a comment, if one stands here: the end of its line. -/
def skipComment (cs : List Char) : Except Fault (List Char) :=
  match cs with
  | '#' :: rest =>
    if (rest.takeWhile (· ≠ '\n')).any isForbidden then .error .controlCharacter
    else .ok (rest.dropWhile (· ≠ '\n'))
  | _ => .ok cs

/-- What follows any blanks, newlines and comments; `fuel` bounds the number of comments. -/
def skipLines : Nat → List Char → Except Fault (List Char)
  | 0, _ => .error .tooDeep
  | fuel + 1, cs =>
    match cs.dropWhile isBlankOrNewline with
    | '#' :: rest => do skipLines fuel (← skipComment ('#' :: rest))
    | rest => .ok rest

end CMakeGen.Toml
