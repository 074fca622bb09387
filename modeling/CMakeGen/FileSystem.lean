import CMakeGen.Disk.Access

/-!
# File queries

Emitting a project asks the disk only whether certain files exist; otherwise it works on paths
lexically. A `FileSystem` fixes the directory that relative paths are read in. Without one of
its own it uses the working directory of the process, and one that is relative is itself read
there once the disk is asked.
-/

namespace CMakeGen

/-- What a run finds: the disk, and the working directory of the process. -/
structure Host where
  disk : Disk
  /-- There always is one: a process whose working directory was taken away is not modelled. -/
  cwd : Location

/-- The way files are asked for. -/
structure FileSystem where
  /-- The directory that relative paths are read in, if it is not that of the process. -/
  directory : Option Path := none
  /-- Whether every question about a file fails. -/
  failing : Bool := false
deriving DecidableEq

namespace FileSystem

def current (fs : FileSystem) (cwd : Location) : Path := fs.directory.getD cwd.toPath

/-- A path read in the current directory and normalised. It is absolute if the current
directory is. -/
def absolute (fs : FileSystem) (cwd : Location) (p : Path) : Path :=
  ((fs.current cwd).join p).normal

/-- The path from one to another. -/
def relative (fs : FileSystem) (cwd : Location) (p base : Path) : Path :=
  (fs.absolute cwd p).relativeTo (fs.absolute cwd base) cwd

/-- Whether a path leads to a file; `none` if the question could not be put. A place that
refuses access holds no file. -/
def probe (fs : FileSystem) (host : Host) (p : Path) : Option Bool :=
  if fs.failing then none
  else match host.disk.isFile host.cwd (fs.absolute host.cwd p) with
    | .ok answer => some answer
    | .error _ => some false

end FileSystem

end CMakeGen
