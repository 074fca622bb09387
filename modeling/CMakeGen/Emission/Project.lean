import CMakeGen.Emission.Settings
import CMakeGen.Script.Statement

/-!
# The script of a project

A project is declared, then its dependencies are listed, and then each configuration says its
settings. A configuration that cannot be resolved ends the script: what was said before it
stands, and nothing is said after it.
-/

namespace CMakeGen

/-- The beginning of a script, and what kept it from going on. -/
structure Emission where
  statements : List Statement
  failure : Option RenderError
deriving DecidableEq

namespace Emission

def empty : Emission := ⟨[], none⟩

def ofExcept : Except RenderError (List Statement) → Emission
  | .ok statements => ⟨statements, none⟩
  | .error e => ⟨[], some e⟩

/-- One emission after the other, if the first came to its end. -/
def append (a b : Emission) : Emission :=
  match a.failure with
  | some _ => a
  | none => ⟨a.statements ++ b.statements, b.failure⟩

def text (e : Emission) : String := Script.render e.statements

/-- The whole script. -/
def script (e : Emission) : Except RenderError String :=
  match e.failure with
  | some failure => .error failure
  | none => .ok e.text

end Emission

/-- A list of values to append, unless there are none. -/
def appendStatement (setting : ListSetting) (target configuration : String) :
    List String → List Statement
  | [] => []
  | values => [.append setting target configuration values]

/-- What a script says about a configuration that is resolved. -/
def Resolved.statements (r : Resolved) (target : String) (settings : Configuration) :
    List Statement :=
  .outputDirectory target settings.outputDir
    :: appendStatement .includeDirectories target settings.name settings.includeDirs
    ++ appendStatement .compileDefinitions target settings.name settings.defines
    ++ appendStatement .linkDirectories target settings.name settings.libDirs
    ++ appendStatement .linkLibraries target settings.name r.links
    ++ appendStatement .linkOptions target settings.name r.linkOptions
    ++ (r.standard.map (Statement.standard target settings.name)).toList
    ++ (r.header.path?.map (Statement.precompile target settings.name)).toList

def declareStatement (project : Project) : Statement :=
  .declare project.kind project.name project.files

/-- The dependencies of a project, unless it has none. -/
def dependStatements (s : Store) (project : Project) : List Statement :=
  match project.dependencies with
  | [] => []
  | dependencies => [.depend project.name (dependencies.map fun d => (s.project d).name)]

namespace Setting

/-- What the script of `project` says about a configuration. -/
def emitConfiguration (x : Setting) (s : Store) (project : Project) (c : ConfigurationId) :
    Emission :=
  .ofExcept ((x.resolve s c).map fun r => r.statements project.name (s.configuration c))

def emitConfigurations (x : Setting) (s : Store) (project : Project) :
    List ConfigurationId → Emission
  | [] => .empty
  | c :: rest => (x.emitConfiguration s project c).append (x.emitConfigurations s project rest)

/-- The script of a project, as far as it gets. -/
def emit (x : Setting) (s : Store) (p : ProjectId) : Emission :=
  let project := s.project p
  Emission.append ⟨declareStatement project :: dependStatements s project, none⟩
    (x.emitConfigurations s project project.configurations)

/-- The whole script of a project. -/
def renderProject (x : Setting) (s : Store) (p : ProjectId) : Except RenderError String :=
  (x.emit s p).script

end Setting

/-! ## The script of a workspace -/

/-- The oldest version of the script language that has every command in use. -/
def minimumVersion : String := "3.16"

/-- The file that the script of a project is written to. -/
def scriptName (project : Project) : String := project.name ++ ".cmake"

/-- A name for the whole: the given one, else that of the first project. -/
def workspaceName (given : Option String) (s : Store) (projects : List ProjectId) : String :=
  given.getD ((projects.head?.map fun p => (s.project p).name).getD "workspace")

/-- The script that includes those of the projects, in order. -/
def renderWorkspace (given : Option String) (s : Store) (projects : List ProjectId) : String :=
  let includeLine (p : ProjectId) : List Char :=
    "include(".toList ++ Script.quoted (scriptName (s.project p)).toList ++ [')', '\n']
  String.ofList <|
    "cmake_minimum_required(VERSION ".toList ++ minimumVersion.toList ++ [')', '\n']
      ++ "project(".toList ++ Script.quoted (workspaceName given s projects).toList ++ [')', '\n']
      ++ projects.flatMap includeLine

end CMakeGen
