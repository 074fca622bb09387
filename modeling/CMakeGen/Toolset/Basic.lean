import CMakeGen.Model.Store

/-!
# Toolsets

A toolset is a family of a compiler and a linker: how it names the library that a project
builds, how it spells a system library, and which flags the settings of a configuration turn
into. Links to libraries of the same workspace need no convention of their own: a link entry
that names a library dependency becomes the path of the file which that project produces.

That path depends on two configurations. Where the file is written is decided by the
dependency's configuration of the same name, or else its first one; a dependency without any
is taken to write into its own location, and is named as the linking configuration says.
-/

namespace CMakeGen

/-- A toolset, by its conventions. -/
structure Toolset where
  name : String
  /-- What the toolset is shown as, before its name. -/
  title : String
  /-- The file name of the library that a project builds in a configuration. -/
  libraryName : Project → Configuration → String
  /-- How a link entry that is no dependency is spelt. -/
  systemLink : String → String := id
  /-- The linker flags for a configuration of a project, if it is attached to one. -/
  linkerFlags : Option Project → Configuration → List String

namespace Toolset

/-- A toolset as it is shown among others. -/
def shown (t : Toolset) : String := t.title ++ "(" ++ Text.quote t.name ++ ")"

/-- The configuration of a dependency that a configuration of the given name links. -/
def linkedConfiguration? (s : Store) (sibling : Project) (name : String) :
    Option Configuration :=
  ((s.findConfiguration sibling name).or sibling.configurations.head?).map s.configuration

/-- The file that a dependency builds, as a configuration with the given settings links it. -/
def libraryPath (t : Toolset) (s : Store) (sibling : Project) (settings : Configuration) :
    Path :=
  let linked := linkedConfiguration? s sibling settings.name
  let directory := (linked.map (·.outputDir)).getD ""
  (sibling.location.join (.ofString directory)).join
    (.ofString (t.libraryName sibling (linked.getD settings)))

/-- A path written so that it cannot be taken for the name of a library. -/
def withSeparator (path : String) : String :=
  if path.toList.contains '/' then path else "./" ++ path

/-- The file that a dependency builds, as a path from the location of `project`. -/
def siblingPath (t : Toolset) (s : Store) (cwd : Location) (project sibling : Project)
    (settings : Configuration) : String :=
  withSeparator ((t.libraryPath s sibling settings).relativeTo project.location cwd).toString

/-- The link target of one entry. -/
def link (t : Toolset) (s : Store) (cwd : Location) (project : Option Project)
    (settings : Configuration) (entry : String) : String :=
  match project with
  | none => t.systemLink entry
  | some project =>
    match (s.findDependency project entry).map s.project with
    | some sibling =>
      if sibling.kind.isLibrary then t.siblingPath s cwd project sibling settings
      else t.systemLink entry
    | none => t.systemLink entry

/-- The link targets of a configuration, entry by entry. -/
def links (t : Toolset) (s : Store) (cwd : Location) (c : ConfigurationId) : List String :=
  (s.configuration c).links.map (t.link s cwd (s.owner? c) (s.configuration c))

/-- The linker flags of a configuration. -/
def ldflags (t : Toolset) (s : Store) (c : ConfigurationId) : List String :=
  t.linkerFlags (s.owner? c) (s.configuration c)

end Toolset

end CMakeGen
