import CMakeGen.Association
import CMakeGen.Toolset.Families

/-!
# The registry of toolsets

Toolsets are asked for by identifier, in any letter case. A registration lists the identifiers
of one toolset, and its first one is the canonical name under which the toolset is kept; the
others, and the first one too, lead to that name by their lower-case forms. A registration
under a canonical name that is taken replaces the toolset for every identifier that leads
there.
-/

namespace CMakeGen

structure Registry where
  /-- The toolset under each canonical name. -/
  toolsets : List (String × Toolset)
  /-- The canonical name behind each identifier, which is in lower case. -/
  aliases : List (String × String)

namespace Registry

def empty : Registry := ⟨[], []⟩

/-- Why a toolset is not registered. -/
inductive RegisterError where
  /-- There is no identifier to register it under. -/
  | noIdentifier
deriving DecidableEq

/-- Register a toolset under the given identifiers. The registry comes back as it is left, with
the reason if the toolset is refused. -/
def register (r : Registry) (toolset : Toolset) : List String → Registry × Option RegisterError
  | [] => (r, some .noIdentifier)
  | canonical :: rest =>
    ({ toolsets := Association.assign canonical toolset r.toolsets
       aliases := (canonical :: rest).foldl
         (fun aliases identifier =>
           Association.assign (Text.lowercase identifier) canonical aliases) r.aliases }, none)

def contains (r : Registry) (identifier : String) : Bool :=
  (r.aliases.lookup (Text.lowercase identifier)).isSome

/-- The toolset that an identifier leads to. -/
def get? (r : Registry) (identifier : String) : Option Toolset :=
  (r.aliases.lookup (Text.lowercase identifier)).bind fun canonical => r.toolsets.lookup canonical

/-- The toolset that an identifier leads to, or the complaint that there is none. -/
def get (r : Registry) (identifier : String) (context : Option String) :
    Except Diagnosis Toolset :=
  match r.get? identifier with
  | some toolset => .ok toolset
  | none => .error ⟨.unknownToolset identifier, context⟩

def sorted (texts : List String) : List String := texts.mergeSort fun a b => decide (a ≤ b)

/-- The canonical names, in ascending order. -/
def names (r : Registry) : List String := sorted (r.toolsets.map (·.1))

/-- The identifiers that lead to a canonical name, in ascending order. -/
def aliasesFor (r : Registry) (name : String) : List String :=
  sorted ((r.aliases.filter (·.2 = name)).map (·.1))

/-- The known toolsets under the identifiers they go by. -/
def standard : Registry :=
  [(Toolset.gcc, ["gcc", "gnu"]), (Toolset.clang, ["clang", "llvm"]),
    (Toolset.msc, ["msc", "msvc", "vs"])].foldl
    (fun r (toolset, identifiers) => (r.register toolset identifiers).1) empty

end Registry

/-- The toolset of a configuration that asks for none. -/
def defaultToolset : String := "clang"

/-- The identifier of the toolset for a configuration: the override if it says anything, else
what the configuration asks for if it says anything, else the default. -/
def chosenToolset (override : Option String) (settings : Configuration) : String :=
  ((override.filter (· ≠ "")).or (settings.toolset.filter (· ≠ ""))).getD defaultToolset

/-- The toolset for a configuration. -/
def Registry.resolve (r : Registry) (s : Store) (override : Option String)
    (c : ConfigurationId) : Except Diagnosis Toolset :=
  r.get (chosenToolset override (s.configuration c)) (some (s.describe c))

end CMakeGen
