import CMakeGen.Association
import CMakeGen.Document.Value
import CMakeGen.Toml.Scan

/-!
# Growing a table

A document is built by statements that each add something at the end of a key, a path of names
from the top. On the way missing tables are made, and an array of tables stands for its last
one. What may be added where is decided by marks on keys: a table written as a value is
complete, and with it all below; a table that was opened by a header or by a dotted key may not
be opened by a header again.
-/

namespace CMakeGen.Toml

/-- The names that lead to a value from the top of the document. -/
abbrev Key := List String

/-- The table with `change` applied to the one that `key` leads to. Missing tables on the way
are made. An array stands for its last table if `throughArrays`, and is in the way if not. -/
def changeAt (throughArrays : Bool) (change : Table → Except Fault Table) :
    Key → Table → Except Fault Table
  | [], table => change table
  | name :: rest, table => do
    let set (value : Value) : Table := Association.assign name value table
    match table.lookup name with
    | none => return set (.table (← changeAt throughArrays change rest []))
    | some (.table inner) => return set (.table (← changeAt throughArrays change rest inner))
    | some (.list items) =>
      match throughArrays, items.getLast? with
      | true, some (.table last) =>
        let last ← changeAt throughArrays change rest last
        return set (.list (items.dropLast ++ [.table last]))
      | _, _ => .error .repeatedKey
    | some _ => .error .repeatedKey

/-- The table with a value under a name that is still free. -/
def addEntry (name : String) (value : Value) (table : Table) : Except Fault Table :=
  if (table.lookup name).isSome then .error .repeatedKey else .ok (table ++ [(name, value)])

/-- The table with one more table in the array under a name. -/
def addToArray (name : String) (table : Table) : Except Fault Table :=
  match table.lookup name with
  | none => .ok (table ++ [(name, .list [.table []])])
  | some (.list items) => .ok (Association.assign name (.list (items ++ [.table []])) table)
  | some _ => .error .repeatedKey

/-- What is known about keys besides their values. -/
structure Marks where
  /-- The values that were written as tables or arrays. -/
  complete : List Key
  /-- The tables that no header may open. -/
  opened : List Key
  /-- The tables that no later header may open. -/
  pending : List Key

namespace Marks

def empty : Marks := ⟨[], [], []⟩

/-- Whether a key leads into a complete value. -/
def isComplete (m : Marks) (key : Key) : Bool := m.complete.any (·.isPrefixOf key)

def isOpened (m : Marks) (key : Key) : Bool := m.opened.contains key

def markComplete (m : Marks) (key : Key) : Marks := { m with complete := key :: m.complete }

def markOpened (m : Marks) (key : Key) : Marks := { m with opened := key :: m.opened }

/-- The marks when a header begins: what was opened by dotted keys stays open to them only
until then. -/
def settle (m : Marks) : Marks := ⟨m.complete, m.pending ++ m.opened, []⟩

/-- The marks without those on a key and below it. -/
def forget (m : Marks) (key : Key) : Marks :=
  { m with
    complete := m.complete.filter (! key.isPrefixOf ·)
    opened := m.opened.filter (! key.isPrefixOf ·) }

end Marks

end CMakeGen.Toml
