import CMakeGen.Emission.Project
import CMakeGen.Log

/-!
# The log of an emission

What the log says while a project is rendered: for each configuration the toolset, the links
that were made absolute and how the search for the precompiled header ended. A configuration
that fails says only what was known before it failed.
-/

namespace CMakeGen.Setting

/-- The log of resolving links. -/
def linkTrace (x : Setting) (project : Project) (entries : List String) : List Log.Entry :=
  (entries.filter isPathReference).map fun entry =>
    ⟨.debug, .links, "Link " ++ entry ++ " -> " ++ resolveLink x.fs x.host.cwd project.location entry⟩

/-- The log of a search for a header. -/
def headerTrace (s : Store) (c : ConfigurationId) : HeaderSearch → List Log.Entry
  | .off => []
  | .found header path =>
    [⟨.debug, .header, "Found precompiled header " ++ header ++ " as " ++ path⟩]
  | .missing header path =>
    [⟨.debug, .header, "Precompiled header " ++ header ++ " not found in " ++ s.describe c
      ++ "; using " ++ path⟩]

/-- The log of one configuration. -/
def traceConfiguration (x : Setting) (s : Store) (c : ConfigurationId) : List Log.Entry :=
  match x.registry.resolve s x.override c with
  | .error _ => []
  | .ok toolset =>
    ⟨.debug, .toolset, "Using toolset " ++ toolset.name ++ " for " ++ s.describe c⟩
      :: match x.resolve s c, s.owner? c with
        | .ok r, some project =>
          x.linkTrace project (toolset.links s x.host.cwd c) ++ headerTrace s c r.header
        | _, _ => []

/-- The log of the configurations up to the first that fails. -/
def traceConfigurations (x : Setting) (s : Store) : List ConfigurationId → List Log.Entry
  | [] => []
  | c :: rest =>
    x.traceConfiguration s c
      ++ if (x.resolve s c).isOk then x.traceConfigurations s rest else []

/-- The log of rendering a project. -/
def trace (x : Setting) (s : Store) (p : ProjectId) : List Log.Entry :=
  x.traceConfigurations s (s.project p).configurations

end CMakeGen.Setting
