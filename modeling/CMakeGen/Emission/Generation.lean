import CMakeGen.Emission.Trace

/-!
# Writing the scripts

Projects are rendered and written one after the other, each rendered in full before its file
is touched, and the script that includes them is written last. So a failure leaves the files of
the projects before it, and of the project that failed nothing, unless its file was opened and
could not be written in full.
-/

namespace CMakeGen

/-- Why scripts could not be generated. -/
inductive GenerateError where
  | render (e : RenderError)
  | disk (e : Disk.Error)
  /-- The generator is a name without a way to generate. -/
  | unimplemented
deriving DecidableEq

/-- How generating scripts ends. -/
structure Outcome where
  disk : Disk
  /-- The files that were written, in order. -/
  written : List Path
  log : List Log.Entry
  failure : Option GenerateError

namespace Outcome

def fail (disk : Disk) (log : List Log.Entry) (e : GenerateError) : Outcome :=
  ⟨disk, [], log, some e⟩

/-- An outcome with a log and a written file in front of it. -/
def after (log : List Log.Entry) (file : Path) (o : Outcome) : Outcome :=
  { o with log := log ++ o.log, written := file :: o.written }

end Outcome

/-- What to generate, besides the projects. -/
structure Generation where
  /-- The name of the whole, if it is not to be that of the first project. -/
  workspace : Option String := none
  override : Option String := none
  fs : FileSystem := {}
  registry : Registry := .standard
  /-- Whether the script that includes the others is written. -/
  writesWorkspace : Bool := true

namespace Generation

def setting (g : Generation) (host : Host) : Setting :=
  { host, fs := g.fs, registry := g.registry, override := g.override }

def wrote (file : Path) : Log.Entry := ⟨.info, .generation, "Wrote " ++ file.toString⟩

/-- The file of a project's script. -/
def projectFile (outputDir : Path) (project : Project) : Path :=
  outputDir.join (.ofString (scriptName project))

/-- The file of the script that includes the others. -/
def workspaceFile (outputDir : Path) : Path := outputDir.join (.ofString "CMakeLists.txt")

/-- Write a file and go on, unless it cannot be written. -/
def writeFile (host : Host) (file : Path) (text : String) (next : Disk → Outcome) : Outcome :=
  match host.disk.write host.cwd file text.toUTF8 with
  | (disk, some e) => .fail disk [] (.disk e)
  | (disk, none) => (next disk).after [wrote file] file

/-- Write the script that includes those of `projects`, if it is wanted. -/
def writeWorkspace (g : Generation) (s : Store) (outputDir : Path) (projects : List ProjectId)
    (host : Host) : Outcome :=
  if g.writesWorkspace then
    writeFile host (workspaceFile outputDir) (renderWorkspace g.workspace s projects)
      fun disk => ⟨disk, [], [], none⟩
  else ⟨host.disk, [], [], none⟩

/-- Write the scripts of the projects that are left, and then the one that includes those of
`projects`. -/
def writeProjects (g : Generation) (s : Store) (outputDir : Path) (projects : List ProjectId) :
    List ProjectId → Host → Outcome
  | [], host => g.writeWorkspace s outputDir projects host
  | p :: rest, host =>
    let x := g.setting host
    let project := s.project p
    let log := ⟨.debug, .generation, "Generating " ++ project.name⟩ :: x.trace s p
    let o : Outcome := match x.renderProject s p with
      | .error e => .fail host.disk [] (.render e)
      | .ok text =>
        writeFile host (projectFile outputDir project) text fun disk =>
          writeProjects g s outputDir projects rest { host with disk }
    { o with log := log ++ o.log }

/-- Generate the scripts of projects in a directory, which is made if it is not there. -/
def run (g : Generation) (host : Host) (s : Store) (projects : List ProjectId)
    (outputDir : Path) : Outcome :=
  match host.disk.makeDirectories host.cwd outputDir with
  | (disk, some e) => .fail disk [] (.disk e)
  | (disk, none) => g.writeProjects s outputDir projects projects { host with disk }

end Generation

/-- A generator: something with a name that may know how to generate. -/
inductive Generator where
  | named (name : String)
  | scripts (g : Generation)

namespace Generator

def name : Generator → String
  | .named name => name
  | .scripts _ => "cmake"

/-- A generator as it is shown among others. -/
def shown (g : Generator) : String :=
  (match g with
    | .named _ => "BaseGenerator"
    | .scripts _ => "CMakeGenerator") ++ "(" ++ Text.quote g.name ++ ")"

def run (generator : Generator) (host : Host) (s : Store) (projects : List ProjectId)
    (outputDir : Path) : Outcome :=
  match generator with
  | .named _ => .fail host.disk [] .unimplemented
  | .scripts g => g.run host s projects outputDir

end Generator

end CMakeGen
