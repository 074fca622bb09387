import CMakeGen.Binary64.Notation
import CMakeGen.Document.Calendar
import CMakeGen.Document.Integer

/-!
# Documents

A model reaches the program as a decoded document: a table of values, each a scalar, a list or
a table again. Two texts are made of a value. `text` is what a name is made of, where any kind of
value may stand for one; `shown` is what a message reports. They differ on strings and dates
alone, and inside a list or a table every item is `shown`. Neither is made of a value that holds
an integer that is too long to be written.

`Value.holds` is how a value answers a yes-or-no question: nothing, zero and whatever is empty
say no.
-/

namespace CMakeGen

/-- A value of a document. Tables keep the order in which their keys came. -/
inductive Value where
  | null
  | bool (b : Bool)
  | integer (n : Int)
  | float (x : Binary64)
  | string (s : String)
  | date (d : Date)
  | time (t : TimeOfDay)
  | moment (m : Moment)
  | list (items : List Value)
  | table (entries : List (String × Value))

namespace Value

instance : Inhabited Value := ⟨.null⟩

mutual

/-- A value as a message reports it. -/
def shown : Value → Except TooManyDigits String
  | .null => .ok "None"
  | .bool b => .ok (if b then "True" else "False")
  | .integer n => writeInteger n
  | .float x => .ok x.toString
  | .string s => .ok (Text.quote s)
  | .date d => .ok d.shown
  | .time t => .ok t.shown
  | .moment m => .ok m.shown
  | .list items => do return "[" ++ ", ".intercalate (← shownItems items) ++ "]"
  | .table entries => do return "\x7b" ++ ", ".intercalate (← shownEntries entries) ++ "\x7d"

def shownItems : List Value → Except TooManyDigits (List String)
  | [] => .ok []
  | item :: rest => do return (← item.shown) :: (← shownItems rest)

def shownEntries : List (String × Value) → Except TooManyDigits (List String)
  | [] => .ok []
  | (key, value) :: rest => do
    return (Text.quote key ++ ": " ++ (← value.shown)) :: (← shownEntries rest)

end

/-- A value as text, however deep its lists and tables are nested: there is no limit to the depth of a
recursion. -/
def text : Value → Except TooManyDigits String
  | .string s => .ok s
  | .date d => .ok d.toString
  | .time t => .ok t.toString
  | .moment m => .ok m.toString
  | value => value.shown

/-- Whether a value says yes. -/
def holds : Value → Bool
  | .null => false
  | .bool b => b
  | .integer n => n ≠ 0
  | .float x => ! x.isZero
  | .string s => s ≠ ""
  | .list items => ! items.isEmpty
  | .table entries => ! entries.isEmpty
  | .date _ | .time _ | .moment _ => true

/-! ## Comparing values -/

mutual

/-- Whether two values are the same. -/
def same : Value → Value → Bool
  | .null, .null => true
  | .bool b, .bool b' => b = b'
  | .integer n, .integer n' => n = n'
  | .float x, .float x' => x = x'
  | .string s, .string s' => s = s'
  | .date d, .date d' => d = d'
  | .time t, .time t' => t = t'
  | .moment m, .moment m' => m = m'
  | .list items, .list items' => sameItems items items'
  | .table entries, .table entries' => sameEntries entries entries'
  | _, _ => false

def sameItems : List Value → List Value → Bool
  | [], [] => true
  | item :: rest, item' :: rest' => item.same item' && sameItems rest rest'
  | _, _ => false

def sameEntries : List (String × Value) → List (String × Value) → Bool
  | [], [] => true
  | (key, value) :: rest, (key', value') :: rest' =>
    key = key' && value.same value' && sameEntries rest rest'
  | _, _ => false

end

mutual

theorem same_iff : ∀ {v v' : Value}, v.same v' = true ↔ v = v'
  | .null, v' | .bool _, v' | .integer _, v' | .float _, v' | .string _, v' | .date _, v'
  | .time _, v' | .moment _, v' => by cases v' <;> simp [same]
  | .list items, v' => by cases v' <;> simp [same, sameItems_iff]
  | .table entries, v' => by cases v' <;> simp [same, sameEntries_iff]

theorem sameItems_iff : ∀ {items items' : List Value}, sameItems items items' = true ↔ items = items'
  | [], items' => by cases items' <;> simp [sameItems]
  | item :: rest, items' => by cases items' <;> simp [sameItems, same_iff, sameItems_iff]

theorem sameEntries_iff : ∀ {entries entries' : List (String × Value)},
    sameEntries entries entries' = true ↔ entries = entries'
  | [], entries' => by cases entries' <;> simp [sameEntries]
  | (key, value) :: rest, [] => by simp [sameEntries]
  | (key, value) :: rest, (key', value') :: rest' => by
    simp [sameEntries, same_iff, sameEntries_iff]

end

instance : DecidableEq Value := fun _ _ => decidable_of_iff _ same_iff

end Value

/-- The entries of a table. -/
abbrev Table := List (String × Value)

end CMakeGen
