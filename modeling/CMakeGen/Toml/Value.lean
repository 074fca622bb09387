import CMakeGen.Toml.Number
import CMakeGen.Toml.Tree

/-!
# Values and keys of TOML

Arrays may go over several lines and end with a comma; inline tables stand on one line and may
not. The recursion is bounded by `fuel`. Two units for each character are enough: a value that
holds others spends two on itself and takes up two brackets.
-/

namespace CMakeGen.Toml

def isBareKeyChar (c : Char) : Bool := c.isAlphanum || c = '-' || c = '_'

/-- One name of a key: bare, or a string on one line. -/
def keyPart : List Char → Read String
  | '"' :: rest => (basicString rest).map fun (cs, rest) => (String.ofList cs, rest)
  | '\'' :: rest => (literalString rest).map fun (cs, rest) => (String.ofList cs, rest)
  | cs =>
    match cs.takeWhile isBareKeyChar with
    | [] => .error .invalidKey
    | name => .ok (String.ofList name, cs.dropWhile isBareKeyChar)

/-- A key: names with dots between them, and the blanks behind it. -/
def key : Nat → List Char → Except Fault (Key × List Char)
  | 0, _ => .error .tooDeep
  | fuel + 1, cs => do
    let (name, cs) ← keyPart cs
    match skipBlanks cs with
    | '.' :: cs =>
      let (rest, cs) ← key fuel (skipBlanks cs)
      return (name :: rest, cs)
    | cs => return ([name], cs)

/-- The entries of an inline table so far, and its complete values. -/
structure Inline where
  table : Table
  marks : Marks

/-- An inline table with one more value. -/
def Inline.add (i : Inline) (key : Key) (value : Value) : Except Fault Inline := do
  if i.marks.isComplete key then .error .completeTable
  else
    let table ← changeAt false (addEntry (key.getLastD "") value) key.dropLast i.table
    let marks := match value with
      | .table _ | .list _ => i.marks.markComplete key
      | _ => i.marks
    return ⟨table, marks⟩

mutual

/-- A value. -/
def value : Nat → List Char → Except Fault (Value × List Char)
  | 0, _ => .error .tooDeep
  | fuel + 1, cs =>
    match string? cs with
    | some read => read.map fun (s, rest) => (.string (String.ofList s), rest)
    | none =>
      match cs with
      | 't' :: 'r' :: 'u' :: 'e' :: rest => .ok (.bool true, rest)
      | 'f' :: 'a' :: 'l' :: 's' :: 'e' :: rest => .ok (.bool false, rest)
      | '[' :: rest => do
        let rest ← skipLines (rest.length + 1) rest
        let (items, rest) ← items fuel rest
        return (.list items, rest)
      | '\x7b' :: rest =>
        match skipBlanks rest with
        | '\x7d' :: rest => .ok (.table [], rest)
        | rest => do
          let (table, rest) ← entries fuel ⟨[], .empty⟩ rest
          return (.table table, rest)
      | cs => (numeric? cs).getD (.error .invalidValue)

/-- The rest of an array, from an item or its closing bracket. -/
def items : Nat → List Char → Except Fault (List Value × List Char)
  | 0, _ => .error .tooDeep
  | fuel + 1, cs =>
    match cs with
    | ']' :: rest => .ok ([], rest)
    | cs => do
      let (item, cs) ← value fuel cs
      match ← skipLines (cs.length + 1) cs with
      | ']' :: rest => return ([item], rest)
      | ',' :: rest =>
        let rest ← skipLines (rest.length + 1) rest
        let (following, rest) ← items fuel rest
        return (item :: following, rest)
      | _ => .error .unclosedArray

/-- The rest of an inline table, from a key. -/
def entries : Nat → Inline → List Char → Except Fault (Table × List Char)
  | 0, _, _ => .error .tooDeep
  | fuel + 1, inline, cs => do
    let (name, cs) ← key (cs.length + 1) cs
    match cs with
    | '=' :: cs =>
      let (v, cs) ← value fuel (skipBlanks cs)
      let inline ← inline.add name v
      match skipBlanks cs with
      | '\x7d' :: rest => return (inline.table, rest)
      | ',' :: rest => entries fuel inline (skipBlanks rest)
      | _ => .error .unclosedTable
    | _ => .error .missingEquals

end

end CMakeGen.Toml
