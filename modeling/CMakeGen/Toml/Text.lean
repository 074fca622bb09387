import CMakeGen.Toml.Scan

/-!
# Strings of TOML

Four forms: basic and literal strings, each on one line or on several. Basic strings have
escapes, literal ones mean what they show. A string on several lines drops a newline right
after its opening quotes, may hold one or two quotes in a row anywhere, its end included, and
in a basic one a backslash at the end of a line drops everything up to the next character that
is not blank.
-/

namespace CMakeGen.Toml

/-- The value of a digit in base sixteen. -/
def hexDigit? (c : Char) : Option Nat :=
  if '0' ≤ c ∧ c ≤ '9' then some (c.toNat - '0'.toNat)
  else if 'a' ≤ c ∧ c ≤ 'f' then some (c.toNat - 'a'.toNat + 10)
  else if 'A' ≤ c ∧ c ≤ 'F' then some (c.toNat - 'A'.toNat + 10)
  else none

/-- The character with a number in base sixteen, if it is one. -/
def hexChar? (digits : List Char) : Option Char := do
  let n ← digits.foldlM (fun n c => (hexDigit? c).map (16 * n + ·)) 0
  if Nat.isValidChar n then some (Char.ofNat n) else none

/-- The character that an escape of one letter stands for. -/
def escaped? : Char → Option Char
  | 'b' => some '\x08'
  | 't' => some '\t'
  | 'n' => some '\n'
  | 'f' => some '\x0c'
  | 'r' => some '\r'
  | '"' => some '"'
  | '\\' => some '\\'
  | _ => none

/-- A character in front of what was read. -/
def prepend (c : Char) : Read (List Char) → Read (List Char)
  | .ok (cs, rest) => .ok (c :: cs, rest)
  | .error e => .error e

/-- A character in front of what was read, if it is one. -/
def prependEscaped (c : Option Char) (following : Read (List Char)) : Read (List Char) :=
  match c with
  | some c => prepend c following
  | none => .error .invalidEscape

/-- A basic string on one line, from behind its opening quote. -/
def basicString : List Char → Read (List Char)
  | [] => .error .unterminatedString
  | '"' :: rest => .ok ([], rest)
  | '\\' :: 'u' :: a :: b :: c :: d :: rest =>
    prependEscaped (hexChar? [a, b, c, d]) (basicString rest)
  | '\\' :: 'U' :: a :: b :: c :: d :: e :: f :: g :: h :: rest =>
    prependEscaped (hexChar? [a, b, c, d, e, f, g, h]) (basicString rest)
  | '\\' :: c :: rest => prependEscaped (escaped? c) (basicString rest)
  | c :: rest =>
    if isForbidden c then .error .controlCharacter else prepend c (basicString rest)

/-- Where a basic string on several lines stands after a backslash at the end of a line. -/
inductive Gap where
  /-- Not after one. -/
  | none
  /-- Between the backslash and the end of its line. -/
  | line
  /-- Before the next character that is not blank. -/
  | below
deriving DecidableEq

/-- A basic string on several lines, from behind its opening quotes up to the first three
quotes in a row. -/
def basicLines : Gap → List Char → Read (List Char)
  | _, [] => .error .unterminatedString
  | .line, c :: rest =>
    if isBlank c then basicLines .line rest
    else if c = '\n' then basicLines .below rest
    else .error .invalidEscape
  | _, '"' :: '"' :: '"' :: rest => .ok ([], rest)
  | _, '\\' :: c :: rest =>
    if isBlank c then basicLines .line rest
    else if c = '\n' then basicLines .below rest
    else match c, rest with
      | 'u', a :: b :: c :: d :: rest =>
        prependEscaped (hexChar? [a, b, c, d]) (basicLines .none rest)
      | 'U', a :: b :: c :: d :: e :: f :: g :: h :: rest =>
        prependEscaped (hexChar? [a, b, c, d, e, f, g, h]) (basicLines .none rest)
      | _, rest => prependEscaped (escaped? c) (basicLines .none rest)
  | gap, c :: rest =>
    if gap = .below && isBlankOrNewline c then basicLines .below rest
    else if isForbidden c && c ≠ '\n' then .error .controlCharacter
    else if c = '\\' then .error .invalidEscape
    else prepend c (basicLines .none rest)

/-- A literal string on one line, from behind its opening quote. -/
def literalString : List Char → Read (List Char)
  | [] => .error .unterminatedString
  | '\'' :: rest => .ok ([], rest)
  | c :: rest =>
    if isForbidden c then .error .controlCharacter else prepend c (literalString rest)

/-- A literal string on several lines, from behind its opening quotes up to the first three
quotes in a row. -/
def literalLines : List Char → Read (List Char)
  | [] => .error .unterminatedString
  | '\'' :: '\'' :: '\'' :: rest => .ok ([], rest)
  | c :: rest =>
    if isForbidden c && c ≠ '\n' then .error .controlCharacter else prepend c (literalLines rest)

/-- A string on several lines with the one or two quotes that may stand before its last
three. -/
def withTrailingQuotes (quote : Char) : Read (List Char) → Read (List Char)
  | .ok (cs, rest) =>
    let extra := (rest.take 2).takeWhile (· = quote)
    .ok (cs ++ extra, rest.drop extra.length)
  | .error e => .error e

/-- The text without a newline at its start. -/
def dropNewline : List Char → List Char
  | '\n' :: rest => rest
  | cs => cs

/-- A string of any form. -/
def string? : List Char → Option (Read (List Char))
  | '"' :: '"' :: '"' :: rest =>
    some (withTrailingQuotes '"' (basicLines .none (dropNewline rest)))
  | '"' :: rest => some (basicString rest)
  | '\'' :: '\'' :: '\'' :: rest =>
    some (withTrailingQuotes '\'' (literalLines (dropNewline rest)))
  | '\'' :: rest => some (literalString rest)
  | _ => none

end CMakeGen.Toml
