import CMakeGen.Document.Value
import CMakeGen.Model.Store

/-!
# Workspaces

A document describes a workspace: projects in order, each with its files, its configurations
and the names of the projects it depends on. Reading it checks what the rest of the program
relies on. Projects have names of their own, configurations have names that are fit for a guard
and are their own within the project, and every dependency is a project of the document, which
may come later, so dependencies are added when all projects are known.

Names are made of any value that can be written; other fields are strings, lists or yes-or-no
answers. Checks come in a fixed order, and the first that fails is the one reported.
-/

namespace CMakeGen

/-- The projects of a document, in order. -/
structure Workspace where
  name : String
  store : Store
  projects : List ProjectId

namespace Workspace

/-- Why a document is not a workspace. -/
inductive ReadError where
  | diagnosed (d : Diagnosis)
  /-- The document is no table. -/
  | notTable
  /-- The configurations of a project are a value that holds nothing to go through. -/
  | notSequence
  /-- A text is to be made of a value that holds an integer that is too long. -/
  | tooManyDigits (e : TooManyDigits)
deriving DecidableEq

/-! ## Fields -/

/-- The field of a table as text, if it is there. -/
def textField (table : Table) (key : String) : Except ReadError (Option String) :=
  ((table.lookup key).mapM Value.text).mapError .tooManyDigits

/-- The field of a table as a string, if it is there and not null. -/
def stringField (table : Table) (key context : String) : Except ReadError (Option String) :=
  match table.lookup key with
  | none | some .null => .ok none
  | some (.string s) => .ok (some s)
  | some value => do
    let shown ← value.shown.mapError .tooManyDigits
    .error (.diagnosed ⟨.notString key shown, some context⟩)

/-- The field of a table as a list of texts. -/
def textsField (table : Table) (key context : String) : Except ReadError (List String) :=
  match table.lookup key with
  | none => .ok []
  | some (.list items) => (items.mapM Value.text).mapError .tooManyDigits
  | some _ => .error (.diagnosed ⟨.notList key, some context⟩)

/-- The field of a table as an answer. -/
def answerField (table : Table) (key : String) (default : Bool) : Bool :=
  ((table.lookup key).map Value.holds).getD default

/-- The table and its name, if the value is a table with one. -/
def named? : Value → Except ReadError (Option (Table × String))
  | .table table => do return (← textField table "name").map (table, ·)
  | _ => .ok none

def projectContext (name : String) : String := "project '" ++ name ++ "'"

def configurationContext (project name : String) : String :=
  projectContext project ++ ", configuration '" ++ name ++ "'"

/-! ## Configurations -/

/-- The mode that a value names. -/
def readPic (context : Option String) : Value → Except ReadError Pic
  | .null => .ok .unset
  | .string label => (Pic.ofLabel (some label)).mapError fun problem => .diagnosed ⟨problem, context⟩
  | value => do
    let shown ← value.shown.mapError .tooManyDigits
    .error (.diagnosed ⟨.invalidPic shown, context⟩)

/-- The settings that an entry of a project describes. -/
def readConfiguration (project : String) (entry : Value) : Except ReadError Configuration := do
  match ← named? entry with
  | none => .error (.diagnosed ⟨.unnamedConfiguration, some (projectContext project)⟩)
  | some (table, name) =>
    let context := configurationContext project name
    let label ← stringField table "pic" context
    let pic ← readPic (some context) ((label.map Value.string).getD .null)
    let includeDirs ← textsField table "include_dirs" context
    let defines ← textsField table "defines" context
    let libDirs ← textsField table "lib_dirs" context
    let links ← textsField table "links" context
    let linkOptions ← textsField table "link_options" context
    let outputDir ← stringField table "output_dir" context
    let dialect ← stringField table "dialect" context
    let pchHeader ← stringField table "pch_header" context
    let toolset ← stringField table "toolset" context
    let architecture ← stringField table "architecture" context
    let system ← stringField table "system" context
    return {
      name, pic, includeDirs, defines, libDirs, links, linkOptions, pchHeader, toolset
      outputDir := outputDir.getD ""
      dialect := dialect.getD ""
      architecture := architecture.getD ""
      system := system.getD ""
      pch := answerField table "pch" true
      symbols := match table.lookup "symbols" with
        | none | some .null => none
        | some value => some value.holds
      linkTimeOptimization := answerField table "link_time_optimization" false }

/-- The entries that the configurations of a project are read from. A text counts as its
characters and a table as its keys, none of which is a configuration. -/
def configurationEntries (table : Table) : Except ReadError (List Value) :=
  match table.lookup "configuration" with
  | none => .ok []
  | some (.list items) => .ok items
  | some (.string s) => .ok (s.toList.map fun c => .string c.toString)
  | some (.table entries) => .ok (entries.map fun entry => .string entry.1)
  | some _ => .error .notSequence

/-- The store that a configuration was added to, unless it was refused. -/
def accepted : Store × Option Diagnosis → Except ReadError Store
  | (s, none) => .ok s
  | (_, some d) => .error (.diagnosed d)

/-- Add the configurations that entries describe to a project. -/
def readConfigurations (p : ProjectId) (project : String) :
    List Value → Store → Except ReadError Store
  | [], s => .ok s
  | entry :: rest, s => do
    let settings ← readConfiguration project entry
    let (s, c) := s.newConfiguration settings
    let s ← accepted (s.addConfiguration p c)
    readConfigurations p project rest s

/-! ## Projects -/

/-- Add the project that an entry describes. Its directories are read in `root`. -/
def readProject (root : Path) (entry : Value) (s : Store) :
    Except ReadError (Store × ProjectId × Table × String) := do
  match ← named? entry with
  | none => .error (.diagnosed ⟨.unnamedProject, none⟩)
  | some (table, name) =>
    let context := projectContext name
    let base ← stringField table "base_dir" context
    let location ← stringField table "location" context
    let label ← textField table "kind"
    let files ← textsField table "files" context
    let baseDir := root.join (.ofString (base.getD ""))
    let (s, p) := s.addProject {
      name, files, baseDir
      kind := .ofLabel (label.getD "")
      location := (location.map fun l => root.join (.ofString l)).getD baseDir }
    let entries ← configurationEntries table
    let s ← readConfigurations p name entries s
    return (s, p, table, name)

/-- The first of the projects with a name. -/
def findProject (s : Store) (projects : List ProjectId) (name : String) : Option ProjectId :=
  projects.find? fun p => (s.project p).name = name

/-- Add the projects that entries describe to those that are there. With each one come the
names of its dependencies. -/
def readProjects (root : Path) :
    List Value → Store → List (ProjectId × List String) →
      Except ReadError (Store × List (ProjectId × List String))
  | [], s, done => .ok (s, done)
  | entry :: rest, s, done => do
    let (s, p, table, name) ← readProject root entry s
    if (findProject s (done.map (·.1)) name).isSome then
      .error (.diagnosed ⟨.duplicateProject name, none⟩)
    else
      let dependencies ← textsField table "dependencies" (projectContext name)
      readProjects root rest s (done ++ [(p, dependencies)])

/-- Add dependencies by name to a project. -/
def addDependencies (projects : List ProjectId) (p : ProjectId) :
    List String → Store → Except Diagnosis Store
  | [], s => .ok s
  | name :: rest, s =>
    match findProject s projects name with
    | none => .error ⟨.unknownDependency name, some (projectContext (s.project p).name)⟩
    | some dependency => addDependencies projects p rest (s.addDependency p dependency)

/-- Add to each project its dependencies. -/
def addAllDependencies (projects : List ProjectId) :
    List (ProjectId × List String) → Store → Except Diagnosis Store
  | [], s => .ok s
  | (p, names) :: rest, s => do
    addAllDependencies projects rest (← addDependencies projects p names s)

/-- The entries that the projects of a document are read from. -/
def projectEntries (table : Table) : Except Diagnosis (List Value) :=
  match table.lookup "project" with
  | none => .ok []
  | some (.list items) => .ok items
  | some _ => .error ⟨.projectsNotListed, none⟩

/-- The workspace that a document describes. Its directories are read in `root`, and it is
called `defaultName` unless it says otherwise. -/
def ofValue (root : Path) (defaultName : String) (document : Value) :
    Except ReadError Workspace := do
  match document with
  | .table table =>
    let name ← textField table "workspace"
    let entries ← (projectEntries table).mapError .diagnosed
    let (store, pending) ← readProjects root entries .empty []
    let projects := pending.map (·.1)
    let store ← (addAllDependencies projects pending store).mapError .diagnosed
    return { name := name.getD defaultName, store, projects }
  | _ => .error .notTable

end Workspace

end CMakeGen
