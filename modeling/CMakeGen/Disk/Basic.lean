import CMakeGen.Association
import CMakeGen.Path.Lexical
import CMakeGen.Text.Quoted

/-!
# The disk

A disk is a finite tree of directories and files, kept as an association from places to what
stands there, with the places that refuse every access and those where there is no room to write.
Looking a path up follows it step by step, and each place that is left on the way has to be a
directory that may be entered; so, unlike the lexical reading of `Path/Lexical.lean`, `name/..`
fails when `name` does not exist.

Nothing here stops a place from standing below a missing one; a disk that is filled by
`Disk.place` and changed by the operations of `Disk/Access.lean` never holds such a place.
-/

namespace CMakeGen

/-- What stands at a place. -/
inductive Node where
  | directory
  | file (contents : ByteArray)

def Node.isDirectory : Node → Bool
  | .directory => true
  | .file _ => false

structure Disk where
  entries : List (Location × Node)
  /-- The places that refuse every access, and with them all that is below. -/
  denied : List Location
  /-- The places where a file can be opened but not written in full. Whatever it is to hold, at
  most that many bytes get into it before writing fails. -/
  full : List (Location × Nat)

namespace Disk

def empty : Disk := ⟨[], [], []⟩

/-- What stands at a place, if anything does. The top of the tree is always there. -/
def node? (d : Disk) (place : Location) : Option Node :=
  if place = [] then some .directory else d.entries.lookup place

def put (d : Disk) (place : Location) (node : Node) : Disk :=
  { d with entries := Association.assign place node d.entries }

/-- The reasons for which the operating system refuses an access. -/
inductive Fault where
  | notFound
  | denied
  | present
  | notDirectory
  | isDirectory
deriving DecidableEq

namespace Fault

def number : Fault → Nat
  | .notFound => 2
  | .denied => 13
  | .present => 17
  | .notDirectory => 20
  | .isDirectory => 21

def phrase : Fault → String
  | .notFound => "No such file or directory"
  | .denied => "Permission denied"
  | .present => "File exists"
  | .notDirectory => "Not a directory"
  | .isDirectory => "Is a directory"

end Fault

/-- How an operation on a path fails. -/
inductive Error where
  /-- The operating system refused it. -/
  | fault (reason : Fault) (path : Path)
  /-- The path holds U+0000 and was never handed to the operating system. -/
  | nullCharacter
  /-- The file was opened, and there is no room for all that was to be written to it. -/
  | noSpace
deriving DecidableEq

def Error.message : Error → String
  | .fault reason path =>
    "[Errno " ++ reason.number.repr ++ "] " ++ reason.phrase ++ ": " ++ Text.quote path.toString
  | .nullCharacter => "embedded null byte"
  | .noSpace => "[Errno 28] No space left on device"

/-- A place can be left for one of its entries, or for its parent, if it is a directory that
may be entered. -/
def enter (d : Disk) (place : Location) : Except Fault Unit :=
  if place ∈ d.denied then .error .denied
  else match d.node? place with
    | none => .error .notFound
    | some (.file _) => .error .notDirectory
    | some .directory => .ok ()

/-- The place that steps lead to, each place on the way entered and the last one only reached. -/
def walk (d : Disk) (place : Location) : List Segment → Except Fault Location
  | [] => if place ∈ d.denied then .error .denied else .ok place
  | step :: rest => do
    d.enter place
    d.walk (place.step step) rest

/-- The place that a path read in `cwd` leads to. It is followed from the top of the tree. -/
def find (d : Disk) (cwd : Location) (p : Path) : Except Fault Location :=
  d.walk [] (p.steps cwd)

/-- What stands where a path leads. -/
def access (d : Disk) (cwd : Location) (p : Path) : Except Fault Node := do
  let place ← d.find cwd p
  match d.node? place with
  | some node => .ok node
  | none => .error .notFound

end Disk

/-- Whether a path holds the character that the operating system ends names with. -/
def Path.hasNull (p : Path) : Bool := p.toString.toList.contains '\x00'

end CMakeGen
