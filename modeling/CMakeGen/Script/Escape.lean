/-!
# Escaping of script arguments

A value reaches a script in one of three written forms.

* `quoted`: between quotes, where only the quote and the backslash have a meaning.
* `unquoted`: as a bare argument, where a backslash stands before each character that would
  otherwise end the argument, open a reference or separate list items; tab and newline have
  letters of their own (`\t`, `\n`).
* `literal`: as a bare argument inside a generator expression, where `>` ends the expression
  and `,` separates its parameters. The two have no escape in that language and are written
  as expressions that yield them, whose dollar sign is the only one left bare.

Values are literal: a dollar sign in one is escaped like any reserved character, so a
reference such as `${ROOT}` is passed on as it is spelt. Every form is given character by
character, which is what the proofs about reading a script back go through.
-/

namespace CMakeGen.Script

/-- The characters that a bare argument can hold only behind a backslash. -/
def isReserved (c : Char) : Bool :=
  c = '\\' || c = '"' || c = '$' || c = ';' || c = '#' || c = '(' || c = ')' || c = ' '

/-- One character of a bare argument. -/
def escapeChar (c : Char) : List Char :=
  if c = '\t' then ['\\', 't']
  else if c = '\n' then ['\\', 'n']
  else if isReserved c then ['\\', c]
  else [c]

/-- A value written as a bare argument. -/
def unquoted (value : List Char) : List Char :=
  value.flatMap escapeChar

/-- The expression that yields `>`. -/
def angleExpression : List Char := "$<ANGLE-R>".toList

/-- The expression that yields `,`. -/
def commaExpression : List Char := "$<COMMA>".toList

/-- A value written as a bare argument inside a generator expression. U+0000 followed by `R`
or `C` is a second spelling of `>` and `,`: a value that holds this pair is not told apart
from one that holds the character itself. -/
def literal : List Char → List Char
  | [] => []
  | '\x00' :: 'R' :: rest => angleExpression ++ literal rest
  | '\x00' :: 'C' :: rest => commaExpression ++ literal rest
  | c :: rest =>
    if c = '>' then angleExpression ++ literal rest
    else if c = ',' then commaExpression ++ literal rest
    else escapeChar c ++ literal rest

/-- One character of a quoted argument. -/
def quoteChar (c : Char) : List Char :=
  if c = '\\' || c = '"' then ['\\', c] else [c]

/-- A value written between quotes. -/
def quoted (value : List Char) : List Char :=
  '"' :: value.flatMap quoteChar ++ ['"']

/-- An already written value that counts under the build type `configuration` alone. -/
def guarded (configuration value : List Char) : List Char :=
  "$<$<CONFIG:".toList ++ configuration ++ ">:".toList ++ value ++ ">".toList

end CMakeGen.Script
