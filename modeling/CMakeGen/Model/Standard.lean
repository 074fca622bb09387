import CMakeGen.Model.Basic

/-!
# Language standards

A dialect label stands for a level of the C++ standard, with or without the extensions of the
GNU compilers. Together with the mode of position independence it fixes the four properties
of a target that concern the standard. An empty label leaves them all alone.
-/

namespace CMakeGen

/-- A dialect of C++. -/
structure Dialect where
  label : String
  standard : Nat
  extensions : Bool
deriving DecidableEq

namespace Dialect

/-- The dialects that have a label. -/
def all : List Dialect :=
  [⟨"C++98", 98, false⟩, ⟨"C++11", 11, false⟩, ⟨"C++14", 14, false⟩, ⟨"C++17", 17, false⟩,
    ⟨"C++20", 20, false⟩, ⟨"gnu++98", 98, true⟩, ⟨"gnu++11", 11, true⟩, ⟨"gnu++14", 14, true⟩,
    ⟨"gnu++17", 17, true⟩, ⟨"gnu++20", 20, true⟩]

/-- The dialect with a label. -/
def ofLabel (label : String) : Except Problem Dialect :=
  match all.find? (·.label = label) with
  | some dialect => .ok dialect
  | none => .error (.unmappedDialect label)

end Dialect

/-- The properties of a target that concern the language standard. -/
structure Standard where
  level : Nat
  required : Bool
  extensions : Bool
  pic : Bool
deriving DecidableEq

/-- The properties for a dialect label and a mode of position independence. A standard that
is asked for is always required, and only `Pic.on` turns position independence on. -/
def Standard.ofLabel (label : String) (pic : Pic) : Except Problem (Option Standard) :=
  if label = "" then .ok none
  else (Dialect.ofLabel label).map fun dialect =>
    some ⟨dialect.standard, true, dialect.extensions, pic = .on⟩

end CMakeGen
