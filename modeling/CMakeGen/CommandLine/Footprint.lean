import CMakeGen.CommandLine.Run

/-!
# The footprint of a run

A run is a function of the disk, and all that it asks of the disk is about the paths listed
here: the model, then, if the model can be loaded, the directory that the scripts go to, the
scripts, and the places where a precompiled header may be. Whoever knows the disk along these
paths, directories on the way included, can run a command without knowing the rest.
-/

namespace CMakeGen.CommandLine

/-- The model that a command reads. -/
def Command.model? : Command → Option Path
  | .generate model _ _ => some (.ofString model)
  | .info model => some (.ofString model)
  | .toolsets => none

/-- The places where the precompiled header of a configuration may be. -/
def headerPaths (cwd : Location) (s : Store) (project : Project) (c : ConfigurationId) :
    List Path :=
  let settings := s.configuration c
  match wantedHeader? settings with
  | none => []
  | some header => (headerCandidates project settings header).map (FileSystem.absolute {} cwd)

/-- The paths that generating the scripts of a workspace asks about. -/
def generatePaths (w : Workspace) (cwd : Location) (outputDir : Path) : List Path :=
  let projects := w.projects.map w.store.project
  outputDir :: Generation.workspaceFile outputDir
    :: projects.map (Generation.projectFile outputDir)
    ++ projects.flatMap fun project =>
      project.configurations.flatMap (headerPaths cwd w.store project)

/-- The paths that a command asks about once the disk is known along the path of the model. -/
def Command.paths (host : Host) : Command → List Path
  | .generate model (some outputDir) _ =>
    match Workspace.load host (.ofString model) with
    | .ok w => generatePaths w host.cwd (.ofString outputDir)
    | .error _ => []
  | .generate _ none _ | .info _ | .toolsets => []

end CMakeGen.CommandLine
