import CMakeGen.Disk.Basic

/-!
# Reading and changing a disk

The operations that a program performs on paths. A question about a file or a directory takes
"not there" for a no and reports only a refused access. Creating a directory with its parents
and writing a file return the disk as they leave it also when they fail, since a failure part of
the way leaves the parents that were made before it, and a file that was opened is no longer what
it was. A directory finds room wherever one can be made, and names may have any length.
-/

namespace CMakeGen.Disk

/-- The answer to a question about what stands at a path. -/
def ask (d : Disk) (cwd : Location) (p : Path) (question : Node → Bool) : Except Error Bool :=
  if p.hasNull then .ok false
  else match d.access cwd p with
    | .ok node => .ok (question node)
    | .error .denied => .error (.fault .denied p)
    | .error _ => .ok false

def isFile (d : Disk) (cwd : Location) (p : Path) : Except Error Bool :=
  d.ask cwd p fun node => ! node.isDirectory

def isDirectory (d : Disk) (cwd : Location) (p : Path) : Except Error Bool :=
  d.ask cwd p Node.isDirectory

def pathExists (d : Disk) (cwd : Location) (p : Path) : Except Error Bool :=
  d.ask cwd p fun _ => true

def read (d : Disk) (cwd : Location) (p : Path) : Except Error ByteArray :=
  if p.hasNull then .error .nullCharacter
  else match d.access cwd p with
    | .ok (.file contents) => .ok contents
    | .ok .directory => .error (.fault .isDirectory p)
    | .error reason => .error (.fault reason p)

/-- Open a file to write it: the place of the file, and the disk with an empty file there,
new or in place of an older one. -/
def openFile (d : Disk) (cwd : Location) (p : Path) : Except Error (Location × Disk) :=
  if p.hasNull then .error .nullCharacter
  else match d.find cwd p with
    | .error reason => .error (.fault reason p)
    | .ok place =>
      match d.node? place with
      | some .directory => .error (.fault .isDirectory p)
      | _ => .ok (place, d.put place (.file .empty))

/-- The disk with a file written, and what went wrong if it could not be written in full. -/
def write (d : Disk) (cwd : Location) (p : Path) (contents : ByteArray) : Disk × Option Error :=
  match d.openFile cwd p with
  | .error e => (d, some e)
  | .ok (place, opened) =>
    match opened.full.lookup place with
    | none => (opened.put place (.file contents), none)
    | some room => (opened.put place (.file (contents.extract 0 room)), some .noSpace)

/-- The disk with one more directory, in a parent that is there. -/
def makeDirectory (d : Disk) (cwd : Location) (p : Path) : Except Error Disk :=
  if p.hasNull then .error .nullCharacter
  else match d.find cwd p with
    | .error reason => .error (.fault reason p)
    | .ok place =>
      match d.node? place with
      | some _ => .error (.fault .present p)
      | none => .ok (d.put place .directory)

/-- A failure to make a directory counts only if there is none afterwards. -/
def toleratePresent (d : Disk) (cwd : Location) (p : Path) (e : Error) : Disk × Option Error :=
  match e, d.isDirectory cwd p with
  | .fault .., .ok true => (d, none)
  | _, _ => (d, some e)

/-- The disk with the directory at the end of `steps`, which come last step first, and with
its parents. A directory that is there already is left alone. A missing parent is made in the
same way, and then the directory is tried once more. -/
def makeDirectoriesAlong (d : Disk) (cwd : Location) (root : Root) :
    List Segment → Disk × Option Error
  | [] =>
    let p : Path := ⟨root, []⟩
    match d.makeDirectory cwd p with
    | .ok d => (d, none)
    | .error (.fault .notFound q) => (d, some (.fault .notFound q))
    | .error e => d.toleratePresent cwd p e
  | last :: before =>
    let p : Path := ⟨root, (last :: before).reverse⟩
    match d.makeDirectory cwd p with
    | .ok d => (d, none)
    | .error (.fault .notFound _) =>
      match d.makeDirectoriesAlong cwd root before with
      | (d, some e) => (d, some e)
      | (d, none) =>
        match d.makeDirectory cwd p with
        | .ok d => (d, none)
        | .error (.fault .notFound q) => (d, some (.fault .notFound q))
        | .error e => d.toleratePresent cwd p e
    | .error e => d.toleratePresent cwd p e

/-- The disk with a directory and its parents, and what went wrong if it could not be made. -/
def makeDirectories (d : Disk) (cwd : Location) (p : Path) : Disk × Option Error :=
  d.makeDirectoriesAlong cwd p.root p.segments.reverse

/-! ## Filling a disk -/

/-- The disk with a directory at every place on the way from `above` along `names` where
nothing stands. -/
def withDirectories (d : Disk) (above : Location) : List FileName → Disk
  | [] => d
  | name :: rest =>
    let here := above ++ [name]
    (if (d.node? here).isNone then d.put here .directory else d).withDirectories here rest

/-- The disk with a node at a place, the directories above it included. -/
def place (d : Disk) (place : Location) (node : Node) : Disk :=
  (d.withDirectories [] place.dropLast).put place node

/-- The disk with one more place that refuses access. -/
def deny (d : Disk) (place : Location) : Disk := { d with denied := d.denied ++ [place] }

end CMakeGen.Disk
