import CMakeGen.CommandLine.Footprint

/-!
# The program

The outer layer: it finds out what stands along the footprint of the run, runs the command on
that part of the disk, makes the changes on the real one, and prints. A disk as the library
knows it holds directories and files alone; whatever is neither counts as a file here. And since
nobody can tell before a file is written, every place is taken to have room for it.
-/

namespace CMakeGen.Program

open CommandLine

/-- What stands at a place; `none` if there is nothing, an error if it cannot be asked. The
contents of a file are left out. -/
def look (place : Location) : IO (Except Unit (Option Node)) := do
  let top ← IO.currentDir
  match ← (top / place.toPath.toString).metadata.toBaseIO with
  | .ok found => return .ok (some (if found.type == .dir then .directory else .file .empty))
  | .error (.permissionDenied ..) => return .error ()
  | .error _ => return .ok none

/-- The disk with what stands at every place that steps pass, as far as they can be followed. -/
def observe (d : Disk) (place : Location) : List Segment → IO Disk
  | [] => return d
  | step :: rest => do
    let here := place.step step
    match d.node? here with
    | some .directory => observe d here rest
    | some (.file _) => return d
    | none =>
      match ← look here with
      | .error () => return d.deny here
      | .ok none => return d
      | .ok (some .directory) => observe (d.put here .directory) here rest
      | .ok (some (.file contents)) => return d.put here (.file contents)

/-- The host with what stands along a path. -/
def observePath (host : Host) (p : Path) : IO Host := do
  if p.hasNull then return host
  return { host with disk := ← observe host.disk [] (p.steps host.cwd) }

/-- The host with what stands along the path of a file, and the contents of the file. -/
def observeFile (host : Host) (p : Path) : IO Host := do
  let host ← observePath host p
  match host.disk.find host.cwd p with
  | .error _ => return host
  | .ok place =>
    match host.disk.node? place with
    | some (.file _) =>
      match ← (IO.FS.readBinFile place.toPath.toString).toBaseIO with
      | .ok contents => return { host with disk := host.disk.put place (.file contents) }
      | .error _ => return { host with disk := host.disk.deny place }
    | _ => return host

/-- Make the directories that are new in `after`, and write the files. -/
def replay (host : Host) (after : Disk) (written : List Path) : IO Unit := do
  for (place, node) in after.entries do
    if node.isDirectory && (host.disk.node? place).isNone then
      IO.FS.createDir place.toPath.toString
  for p in written do
    match after.find host.cwd p with
    | .error _ => pure ()
    | .ok place =>
      match after.node? place with
      | some (.file contents) => IO.FS.writeBinFile place.toPath.toString contents
      | _ => pure ()

/-- What the command of a request needs to know about the disk. -/
def observeCommand (host : Host) (command : Command) : IO Host := do
  let host ← match command.model? with
    | some model => observeFile host model
    | none => pure host
  (command.paths host).foldlM observePath host

end CMakeGen.Program

open CMakeGen CMakeGen.CommandLine in
def main (arguments : List String) : IO UInt32 := do
  let cwd := (Path.ofString (← IO.currentDir).toString).locate []
  let bare : Host := ⟨Disk.empty.withDirectories [] cwd, cwd⟩
  let host ← match readArguments arguments with
    | .ok (.run _ command) => Program.observeCommand bare command
    | _ => pure bare
  let r := CommandLine.run ⟨host, ← IO.getEnv "PCMAKE_CC"⟩ arguments
  Program.replay host r.disk r.written
  IO.print r.stdout
  IO.eprint r.stderr
  match r.ending with
  | .exit code => return code.toUInt32
  | .broken f =>
    IO.eprintln (f.message?.getD "the run was broken off")
    return 1
