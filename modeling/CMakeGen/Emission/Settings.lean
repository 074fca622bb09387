import CMakeGen.FileSystem
import CMakeGen.Model.Standard
import CMakeGen.Toolset.Registry

/-!
# The settings in effect

What a configuration amounts to once everything that has to be looked up is known: its
toolset, the language standard, the link targets, the linker options and the precompiled
header. All of it is found before anything is said about the configuration, so a failure
leaves nothing half said.

Two of these look at paths. A link entry that names a file is made absolute, since a script is
read from another directory; an entry without a separator is a library that the linker finds.
A precompiled header is searched in the directory that the project was defined in and then in
each include directory; where it is found decides how it is spelt, and if it is found nowhere
it is made absolute.
-/

namespace CMakeGen

/-- Why a project cannot be rendered. -/
inductive RenderError where
  | diagnosed (d : Diagnosis)
  /-- The configuration of that name belongs to no project. -/
  | detached (configuration : String)
deriving DecidableEq

def RenderError.message : RenderError → String
  | .diagnosed d => d.message
  | .detached configuration =>
    "configuration '" ++ configuration ++ "' is not attached to a project"

/-! ## Links -/

/-- Whether a link entry names a file, by a separator of either kind. -/
def isPathReference (entry : String) : Bool := entry.toList.any fun c => c = '/' || c = '\\'

/-- A link entry of a project at `location`, as a script can say it. -/
def resolveLink (fs : FileSystem) (cwd : Location) (location : Path) (entry : String) : String :=
  if isPathReference entry then (fs.absolute cwd (location.join (.ofString entry))).toString
  else entry

/-- The link targets of a configuration; `entries` are those that the toolset answers with. -/
def resolveLinks (fs : FileSystem) (cwd : Location) (s : Store) (c : ConfigurationId)
    (entries : List String) : Except RenderError (List String) :=
  match s.owner? c with
  | none => .error (.detached (s.configuration c).name)
  | some project => .ok (entries.map (resolveLink fs cwd project.location))

/-- The linker options of a configuration: its own, then the flags of the toolset. -/
def resolveLinkOptions (s : Store) (c : ConfigurationId) (flags : List String) : List String :=
  (s.configuration c).linkOptions ++ flags

/-! ## The precompiled header -/

/-- How the search for a precompiled header ends. -/
inductive HeaderSearch where
  /-- None is wanted. -/
  | off
  /-- The header was found and is spelt `path`. -/
  | found (header path : String)
  /-- The header was not found and is spelt `path`. -/
  | missing (header path : String)
deriving DecidableEq

/-- The spelling of the header, if there is one. -/
def HeaderSearch.path? : HeaderSearch → Option String
  | .off => none
  | .found _ path | .missing _ path => some path

/-- The header that a configuration wants precompiled. -/
def wantedHeader? (settings : Configuration) : Option String :=
  if settings.pch then settings.pchHeader.filter (· ≠ "") else none

/-- Where a header may be, in the order of the search. -/
def headerCandidates (project : Project) (settings : Configuration) (header : String) :
    List Path :=
  (project.baseDir :: settings.includeDirs.map fun d => project.baseDir.join (.ofString d)).map
    fun directory => directory.join (.ofString header)

/-- The search for the precompiled header of a configuration. -/
def searchHeader (fs : FileSystem) (host : Host) (s : Store) (c : ConfigurationId) :
    Except RenderError HeaderSearch :=
  let settings := s.configuration c
  match wantedHeader? settings with
  | none => .ok .off
  | some header =>
    match s.owner? c with
    | none => .error (.detached settings.name)
    | some project =>
      match (headerCandidates project settings header).find? (fs.probe host · = some true) with
      | some candidate =>
        .ok (.found header (fs.relative host.cwd candidate project.baseDir).toString)
      | none => .ok (.missing header (fs.absolute host.cwd (.ofString header)).toString)

/-! ## All of it -/

/-- What rendering depends on besides the model. -/
structure Setting where
  host : Host
  fs : FileSystem := {}
  registry : Registry := .standard
  /-- The toolset for every configuration, if it is given. -/
  override : Option String := none

/-- What a configuration amounts to. -/
structure Resolved where
  toolset : Toolset
  standard : Option Standard
  links : List String
  linkOptions : List String
  header : HeaderSearch

namespace Setting

/-- What a configuration amounts to, or the first thing that cannot be found out. -/
def resolve (x : Setting) (s : Store) (c : ConfigurationId) : Except RenderError Resolved := do
  let settings := s.configuration c
  let toolset ← (x.registry.resolve s x.override c).mapError .diagnosed
  let standard ← (Standard.ofLabel settings.dialect settings.pic).mapError fun problem =>
    .diagnosed ⟨problem, some (s.describe c)⟩
  let links ← resolveLinks x.fs x.host.cwd s c (toolset.links s x.host.cwd c)
  let linkOptions := resolveLinkOptions s c (toolset.ldflags s c)
  let header ← searchHeader x.fs x.host s c
  return { toolset, standard, links, linkOptions, header }

end Setting

end CMakeGen
