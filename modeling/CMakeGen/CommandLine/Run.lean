import CMakeGen.CommandLine.Arguments
import CMakeGen.Failure

/-!
# Running a command

A run takes the arguments, what it finds on the host and the toolset that the environment asks
for, and ends with what it printed, the log, the disk as it leaves it, and an exit code. What is
wrong with the model or cannot be written is logged and exits with 1. Other failures are not
handled here: the run is broken off, and the failure is passed on.
-/

namespace CMakeGen.CommandLine

def programName : String := "pcmake"

def programVersion : String := "0.1.0"

/-- How the program is called. -/
def usage : String :=
  "usage: " ++ programName ++ " [-h] [--version] \x7bgenerate,info,toolsets\x7d ...\n"

/-- How a run ends. -/
inductive Ending where
  | exit (code : Nat)
  /-- It was broken off. -/
  | broken (f : Failure)
deriving DecidableEq

/-- What a run leaves behind. -/
structure Result where
  ending : Ending
  /-- What was printed. -/
  output : String
  log : List Log.Entry
  disk : Disk
  /-- The files that were written, in order. -/
  written : List Path

/-- What a run finds. -/
structure Environment where
  host : Host
  /-- The toolset that the environment asks for. -/
  toolset : Option String

namespace Result

/-- A run that leaves the disk alone. -/
def quiet (e : Environment) (ending : Ending) (output : String) (log : List Log.Entry) : Result :=
  ⟨ending, output, log, e.host.disk, []⟩

/-- The entry that reports what made a run fail. -/
def complaint (message : String) : Log.Entry := ⟨.error, .commandLine, message⟩

end Result

open Result

/-- The toolset for every configuration: that of the arguments if it says anything, else that
of the environment if it says anything. -/
def toolsetOverride (argument environment : Option String) : Option String :=
  (argument.filter (· ≠ "")).or (environment.filter (· ≠ ""))

/-- The entry that reports a loaded workspace. -/
def loaded (w : Workspace) : Log.Entry :=
  ⟨.debug, .workspace,
    "Loaded workspace " ++ w.name ++ " with " ++ w.projects.length.repr ++ " project(s)"⟩

/-- The ending of a run whose model cannot be loaded, and what is logged about it. -/
def loadFailure : Workspace.LoadError → Ending × List Log.Entry
  | .read (.diagnosed d) => (.exit 1, [complaint d.message])
  | e => (.broken (.ofLoad e), [])

/-- The ending of a run that cannot generate, and what is logged about it. -/
def generateFailure : GenerateError → Ending × List Log.Entry
  | .render (.diagnosed d) => (.exit 1, [complaint d.message])
  | .disk (.fault reason p) =>
    (.exit 1, [complaint ("Failed to write output: " ++ (Disk.Error.fault reason p).message)])
  | .disk .noSpace =>
    (.exit 1, [complaint ("Failed to write output: " ++ Disk.Error.noSpace.message)])
  | e => (.broken (.ofGenerate e), [])

/-- Write the scripts of a loaded workspace; `log` is what was logged before. -/
def generateLoaded (e : Environment) (w : Workspace) (override outputDir : Option String)
    (log : List Log.Entry) : Result :=
  match outputDir with
  | none => quiet e (.broken .noOutputDir) "" log
  | some outputDir =>
    let g : Generation := { workspace := some w.name, override }
    let o := g.run e.host w.store w.projects (.ofString outputDir)
    let (ending, output, complaints) := match o.failure with
      | none =>
        (Ending.exit 0, String.join (o.written.map fun p => "Generated " ++ p.toString ++ "\n"), [])
      | some error =>
        let (ending, complaints) := generateFailure error
        (ending, "", complaints)
    ⟨ending, output, log ++ o.log ++ complaints, o.disk, o.written⟩

/-- Write the scripts for a model. -/
def generate (e : Environment) (model : String) (outputDir toolset : Option String) : Result :=
  let path : Path := .ofString model
  match e.host.disk.pathExists e.host.cwd path with
  | .error refusal => quiet e (.broken (.disk refusal)) "" []
  | .ok false => quiet e (.exit 1) "" [complaint ("Model file not found: " ++ path.toString)]
  | .ok true =>
    let override := toolsetOverride toolset e.toolset
    let announced : List Log.Entry := match override with
      | some identifier => [⟨.info, .commandLine, "Using toolset override " ++ identifier⟩]
      | none => []
    match Workspace.load e.host path with
    | .error error =>
      let (ending, log) := loadFailure error
      quiet e ending "" (announced ++ log)
    | .ok w => generateLoaded e w override outputDir (announced ++ [loaded w])

/-- A project as a summary of its workspace shows it. -/
def projectSummary (s : Store) (p : ProjectId) : String :=
  let project := s.project p
  let dependencies := match project.dependencies with
    | [] => ""
    | dependencies =>
      "    depends on: " ++ ", ".intercalate (dependencies.map fun d => (s.project d).name) ++ "\n"
  let configuration (c : ConfigurationId) : String :=
    let settings := s.configuration c
    let toolset := (settings.toolset.filter (· ≠ "")).getD "(default)"
    let dialect := if settings.dialect = "" then "-" else settings.dialect
    "    " ++ settings.name ++ ": toolset=" ++ toolset ++ " dialect=" ++ dialect ++ "\n"
  "  " ++ project.name ++ " (" ++ project.kind.name ++ ")\n" ++ dependencies
    ++ String.join (project.configurations.map configuration)

/-- Show what a model holds. -/
def info (e : Environment) (model : String) : Result :=
  match Workspace.load e.host (.ofString model) with
  | .error error =>
    let (ending, log) := loadFailure error
    quiet e ending "" log
  | .ok w =>
    quiet e (.exit 0)
      ("Workspace: " ++ w.name ++ "\n" ++ String.join (w.projects.map (projectSummary w.store)))
      [loaded w]

/-- Show the known toolsets. -/
def toolsets (e : Environment) : Result :=
  let line (name : String) : String :=
    name ++ (if name = defaultToolset then " (default)" else "") ++ ": "
      ++ ", ".intercalate (Registry.standard.aliasesFor name) ++ "\n"
  quiet e (.exit 0) (String.join (Registry.standard.names.map line)) []

def Command.run (e : Environment) : Command → Result
  | .generate model outputDir toolset => CommandLine.generate e model outputDir toolset
  | .info model => CommandLine.info e model
  | .toolsets => CommandLine.toolsets e

/-- What a run shows its caller. -/
structure Shown where
  ending : Ending
  stdout : String
  stderr : String
  disk : Disk
  written : List Path

/-- Run the program. -/
def run (e : Environment) (arguments : List String) : Shown :=
  match readArguments arguments with
  | .error .help => ⟨.exit 0, usage, "", e.host.disk, []⟩
  | .error .version => ⟨.exit 0, programName ++ " " ++ programVersion ++ "\n", "", e.host.disk, []⟩
  | .error (.misuse m) =>
    ⟨.exit 2, "", usage ++ programName ++ ": error: " ++ m.message ++ "\n", e.host.disk, []⟩
  | .ok .nothing => ⟨.exit 1, usage, "", e.host.disk, []⟩
  | .ok (.run verbosity command) =>
    let r := command.run e
    ⟨r.ending, r.output, Log.render verbosity r.log, r.disk, r.written⟩

end CMakeGen.CommandLine
