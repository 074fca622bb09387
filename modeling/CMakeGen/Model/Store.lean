import CMakeGen.Model.Basic

/-!
# The store

All projects and configurations of a run, by identifier. What is put into the store stays
there and is changed in place, so an identifier goes on naming the same project or
configuration, and every reference sees the change. An identifier that was never handed out
reads as a nameless project or configuration without settings.

A configuration can be added to more than one project. Each of them lists it, and its owner is
the one it was added to last.
-/

namespace CMakeGen

structure Store where
  projects : List Project
  configurations : List Attachment
deriving DecidableEq

namespace Store

def empty : Store := ⟨[], []⟩

def project (s : Store) (p : ProjectId) : Project := s.projects.getD p.index default

def attachment (s : Store) (c : ConfigurationId) : Attachment :=
  s.configurations.getD c.index default

def configuration (s : Store) (c : ConfigurationId) : Configuration := (s.attachment c).settings

/-- The project that a configuration is attached to. -/
def owner? (s : Store) (c : ConfigurationId) : Option Project :=
  (s.attachment c).owner.map s.project

/-! ## Changing the store -/

/-- A new project. -/
def addProject (s : Store) (p : Project) : Store × ProjectId :=
  ({ s with projects := s.projects ++ [p] }, ⟨s.projects.length⟩)

/-- A new configuration, attached to no project. -/
def newConfiguration (s : Store) (settings : Configuration) : Store × ConfigurationId :=
  ({ s with configurations := s.configurations ++ [{ settings }] }, ⟨s.configurations.length⟩)

def modifyProject (s : Store) (p : ProjectId) (f : Project → Project) : Store :=
  { s with projects := s.projects.modify p.index f }

def modifyAttachment (s : Store) (c : ConfigurationId) (f : Attachment → Attachment) : Store :=
  { s with configurations := s.configurations.modify c.index f }

/-- Other settings for a configuration, its name not excepted. -/
def modifySettings (s : Store) (c : ConfigurationId) (f : Configuration → Configuration) :
    Store :=
  s.modifyAttachment c fun a => { a with settings := f a.settings }

def addFile (s : Store) (p : ProjectId) (file : String) : Store :=
  s.modifyProject p fun project => { project with files := project.files ++ [file] }

def addDependency (s : Store) (p on : ProjectId) : Store :=
  s.modifyProject p fun project => { project with dependencies := project.dependencies ++ [on] }

/-! ## Looking things up by name -/

/-- The first configuration of a project with a name. -/
def findConfiguration (s : Store) (p : Project) (name : String) : Option ConfigurationId :=
  p.configurations.find? fun c => (s.configuration c).name = name

/-- The first dependency of a project with a name. -/
def findDependency (s : Store) (p : Project) (name : String) : Option ProjectId :=
  p.dependencies.find? fun d => (s.project d).name = name

/-! ## Attaching configurations -/

/-- The characters that a name in a guard may hold. -/
def isNameChar (c : Char) : Bool := c.isAlphanum || c = '_'

/-- Whether a name can stand in a guard and name a build type. -/
def isConfigurationName (name : String) : Bool :=
  name ≠ "" && name.toList.all isNameChar

/-- Attach a configuration to a project. Its name has to be fit for a guard and new within the
project. The store comes back as it is left, with the reason if the configuration is refused. -/
def addConfiguration (s : Store) (p : ProjectId) (c : ConfigurationId) :
    Store × Option Diagnosis :=
  let name := (s.configuration c).name
  let refuse (problem : Problem) : Store × Option Diagnosis :=
    (s, some ⟨problem, some ("project '" ++ (s.project p).name ++ "'")⟩)
  if ! isConfigurationName name then refuse (.invalidConfigurationName name)
  else if (s.findConfiguration (s.project p) name).isSome then
    refuse (.duplicateConfiguration name)
  else
    let s := s.modifyProject p fun project =>
      { project with configurations := project.configurations ++ [c] }
    (s.modifyAttachment c fun a => { a with owner := some p }, none)

/-- A configuration as messages speak of it. -/
def describe (s : Store) (c : ConfigurationId) : String :=
  let here := "configuration '" ++ (s.configuration c).name ++ "'"
  match s.owner? c with
  | some project => "project '" ++ project.name ++ "', " ++ here
  | none => here

end Store

end CMakeGen
