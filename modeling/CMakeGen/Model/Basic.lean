import CMakeGen.Diagnosis
import CMakeGen.Text.Lowercase

/-!
# Projects and configurations

The model is resolved before it gets here: every configuration carries all of its settings,
and nothing is inherited. A project becomes one build target that has every one of its
configurations in it. Projects and configurations refer to each other by identifiers that a
`Store` (`Model/Store.lean`) hands out, since the references go in circles: a configuration
knows the project it is attached to, and two projects may depend on each other.
-/

namespace CMakeGen

/-- The kinds of targets. -/
inductive Kind where
  | staticLibrary
  | sharedLibrary
  | executable
deriving DecidableEq

namespace Kind

def name : Kind → String
  | .staticLibrary => "StaticLibrary"
  | .sharedLibrary => "SharedLibrary"
  | .executable => "Executable"

/-- The kind that a label names. What names no kind of library is an executable. -/
def ofLabel (label : String) : Kind :=
  if label = "StaticLibrary" ∨ label = "StaticLib" then .staticLibrary
  else if label = "SharedLibrary" ∨ label = "SharedLib" then .sharedLibrary
  else .executable

def isLibrary : Kind → Bool
  | .staticLibrary | .sharedLibrary => true
  | .executable => false

end Kind

/-- Whether code is compiled to run at any address. -/
inductive Pic where
  | unset
  | on
  | off
deriving DecidableEq

namespace Pic

def name : Pic → String
  | .unset => "Unset"
  | .on => "On"
  | .off => "Off"

/-- The mode that a label names, up to letter case. No label and the empty one leave it unset. -/
def ofLabel : Option String → Except Problem Pic
  | none => .ok .unset
  | some label =>
    if label = "" then .ok .unset
    else match [unset, on, off].find? fun mode =>
        Text.lowercase mode.name = Text.lowercase label with
      | some mode => .ok mode
      | none => .error (.invalidPic ("'" ++ label ++ "'"))

end Pic

/-- The settings of one configuration of a project. -/
structure Configuration where
  /-- The build type under which the settings count. -/
  name : String
  /-- Where archives, libraries and programs are written. -/
  outputDir : String := ""
  includeDirs : List String := []
  /-- Preprocessor definitions, as they reach the compiler. -/
  defines : List String := []
  libDirs : List String := []
  /-- What is linked: names of other projects, names of system libraries, and paths. -/
  links : List String := []
  linkOptions : List String := []
  /-- The language dialect; empty if the compiler's own is to be used. -/
  dialect : String := ""
  pic : Pic := .unset
  /-- Whether a precompiled header may be used. -/
  pch : Bool := true
  pchHeader : Option String := none
  /-- The toolset that is asked for. -/
  toolset : Option String := none
  architecture : String := ""
  /-- Whether debug symbols are wanted, if the model says so. -/
  symbols : Option Bool := none
  linkTimeOptimization : Bool := false
  /-- The target operating system. -/
  system : String := ""
deriving DecidableEq

/-- The name of a project within a store. -/
structure ProjectId where
  index : Nat
deriving DecidableEq

/-- The name of a configuration within a store. -/
structure ConfigurationId where
  index : Nat
deriving DecidableEq

/-- A target and what belongs to it. -/
structure Project where
  name : String
  kind : Kind := .executable
  /-- The directory that the project was defined in. -/
  baseDir : Path := .here
  /-- The directory that its files are relative to. -/
  location : Path := .here
  files : List String := []
  /-- The projects it depends on, in the order in which they were added. -/
  dependencies : List ProjectId := []
  /-- Its configurations, in the order in which they were added. -/
  configurations : List ConfigurationId := []
deriving DecidableEq

instance : Inhabited Project := ⟨{ name := "" }⟩

/-- A project as it is shown among others. -/
def Project.shown (p : Project) : String :=
  "Project(" ++ Text.quote p.name ++ ", " ++ p.kind.name ++ ")"

/-- A configuration and the project it is attached to. -/
structure Attachment where
  settings : Configuration
  owner : Option ProjectId := none
deriving DecidableEq

instance : Inhabited Attachment := ⟨{ settings := { name := "" } }⟩

end CMakeGen
