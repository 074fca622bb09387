import CMakeGen.Toml.Value

/-!
# Documents of TOML

A document is a sequence of statements, one to a line: a key with its value, or a header that
opens a table or adds one to an array of tables. Keys are read below the last header.
-/

namespace CMakeGen.Toml

/-- What the statements so far amount to. -/
structure State where
  table : Table
  marks : Marks
  /-- The key of the last header. -/
  header : Key

namespace State

/-- After `key = value` below the last header. Tables that are made on the way may be extended
by dotted keys until the next header, but not if a header opened them. -/
def assign (s : State) (key : Key) (value : Value) : Except Fault State := do
  let onTheWay := (List.range (key.length - 1)).map fun n => s.header ++ key.take (n + 1)
  if onTheWay.any s.marks.isOpened then .error .repeatedTable
  else
    let marks := { s.marks with pending := onTheWay ++ s.marks.pending }
    let parent := s.header ++ key.dropLast
    if marks.isComplete parent then .error .completeTable
    else
      let table ← changeAt true (addEntry (key.getLastD "") value) parent s.table
      let marks := match value with
        | .table _ | .list _ => marks.markComplete (s.header ++ key)
        | _ => marks
      return { s with table, marks }

/-- After the header `[key]`. -/
def openTable (s : State) (key : Key) : Except Fault State := do
  let marks := s.marks.settle
  if marks.isOpened key || marks.isComplete key then .error .repeatedTable
  else
    let table ← changeAt true .ok key s.table
    return ⟨table, marks.markOpened key, key⟩

/-- After the header `[[key]]`. The table that it adds starts without marks. -/
def openArray (s : State) (key : Key) : Except Fault State := do
  let marks := s.marks.settle
  if marks.isComplete key then .error .completeTable
  else
    let table ← changeAt true (addToArray (key.getLastD "")) key.dropLast s.table
    return ⟨table, (marks.forget key).markOpened key, key⟩

end State

/-- The statement at the start of a line that is not blank, and the blanks behind it. -/
def statement (s : State) (cs : List Char) : Except Fault (State × List Char) := do
  match cs with
  | '[' :: '[' :: rest =>
    let (name, rest) ← key (rest.length + 1) (skipBlanks rest)
    match rest with
    | ']' :: ']' :: rest => return (← s.openArray name, skipBlanks rest)
    | _ => .error .unclosedHeader
  | '[' :: rest =>
    let (name, rest) ← key (rest.length + 1) (skipBlanks rest)
    match rest with
    | ']' :: rest => return (← s.openTable name, skipBlanks rest)
    | _ => .error .unclosedHeader
  | '#' :: _ => return (s, cs)
  | c :: _ =>
    if isBareKeyChar c || c = '"' || c = '\'' then
      let (name, rest) ← key (cs.length + 1) cs
      match rest with
      | '=' :: rest =>
        let (v, rest) ← value (2 * rest.length + 2) (skipBlanks rest)
        return (← s.assign name v, skipBlanks rest)
      | _ => .error .missingEquals
    else .error .invalidStatement
  | [] => return (s, [])

/-- What the lines of a text add to a document; `fuel` bounds their number. -/
def lines : Nat → State → List Char → Except Fault State
  | 0, _, _ => .error .tooDeep
  | fuel + 1, s, cs =>
    match skipBlanks cs with
    | [] => .ok s
    | '\n' :: rest => lines fuel s rest
    | cs => do
      let (s, cs) ← statement s cs
      match ← skipComment cs with
      | [] => return s
      | '\n' :: rest => lines fuel s rest
      | _ => .error .missingNewline

/-- A line that ends with a carriage return and a newline ends with the newline alone. -/
def unifyNewlines : List Char → List Char
  | '\r' :: '\n' :: rest => '\n' :: unifyNewlines rest
  | c :: rest => c :: unifyNewlines rest
  | [] => []

/-- The table that a text describes. -/
def read (text : String) : Except Fault Table :=
  let cs := unifyNewlines text.toList
  (lines (cs.length + 1) ⟨[], .empty, []⟩ cs).map (·.table)

end CMakeGen.Toml
