import CMakeGen.Proofs.Emission.Report
import CMakeGen.Proofs.Toolset.Registry

/-!
# A configuration and its owner

A configuration is resolved for the project that owns it, whichever project lists it. The owner is asked
for in four places: in what messages say, in the links, in the linker flags and in the search for the
header. **They come to one project** (`resolve_of_owner`): `Setting.settle` finds all of it from the
project and the settings, and never asks whose they are.

What it takes from the rest of the store are the files that the links lead to, so it is the same in
another store if these are (`settle_congr`).
-/

namespace CMakeGen

/-- The search for the header that settings want in a project. -/
def headerFor (fs : FileSystem) (host : Host) (project : Project) (settings : Configuration) :
    HeaderSearch :=
  match wantedHeader? settings with
  | none => .off
  | some header =>
    match (headerCandidates project settings header).find? (fs.probe host · = some true) with
    | some candidate => .found header (fs.relative host.cwd candidate project.baseDir).toString
    | none => .missing header (fs.absolute host.cwd (.ofString header)).toString

/-- How messages speak of a configuration of a project. -/
def Project.contextOf (project : Project) (settings : Configuration) : String :=
  "project '" ++ project.name ++ "', " ++ ("configuration '" ++ settings.name ++ "'")

namespace Setting

/-- What settings of a project amount to under a toolset and a standard. -/
def amount (x : Setting) (s : Store) (project : Project) (settings : Configuration) (t : Toolset)
    (standard : Option Standard) : Resolved where
  toolset := t
  standard := standard
  links := settings.links.map fun entry => resolveLink x.fs x.host.cwd project.location
    (t.link s x.host.cwd (some project) settings entry)
  linkOptions := settings.linkOptions ++ t.linkerFlags (some project) settings
  header := headerFor x.fs x.host project settings

/-- The toolset and the standard that settings of a project ask for, or the first that is missing. -/
def asked (x : Setting) (project : Project) (settings : Configuration) :
    Except RenderError (Toolset × Option Standard) := do
  let t ← (x.registry.get (chosenToolset x.override settings)
    (some (project.contextOf settings))).mapError .diagnosed
  let standard ← (Standard.ofLabel settings.dialect settings.pic).mapError fun problem =>
    .diagnosed ⟨problem, some (project.contextOf settings)⟩
  return (t, standard)

/-- What settings of a project amount to, or the first thing that cannot be found out. -/
def settle (x : Setting) (s : Store) (project : Project) (settings : Configuration) :
    Except RenderError Resolved :=
  (x.asked project settings).map fun (t, standard) => x.amount s project settings t standard

end Setting

section

variable {s : Store} {c : ConfigurationId} {project : Project}
  (howner : s.owner? c = some project)

include howner

theorem describe_of_owner : s.describe c = project.contextOf (s.configuration c) := by
  unfold Store.describe
  rw [howner]
  rfl

theorem searchHeader_of_owner (fs : FileSystem) (host : Host) :
    searchHeader fs host s c = .ok (headerFor fs host project (s.configuration c)) := by
  rw [searchHeader, headerFor, howner]
  cases wantedHeader? (s.configuration c) with
  | none => rfl
  | some header =>
    dsimp only
    cases (headerCandidates project (s.configuration c) header).find?
      (fs.probe host · = some true) <;> rfl

/-- **A configuration resolves to what its settings amount to in the project that owns it.** -/
theorem Setting.resolve_of_owner (x : Setting) :
    x.resolve s c = x.settle s project (s.configuration c) := by
  have hlinks (t : Toolset) :
      resolveLinks x.fs x.host.cwd s c (t.links s x.host.cwd c)
        = .ok (x.amount s project (s.configuration c) t none).links := by
    rw [resolveLinks, Toolset.links, howner]
    simp [amount]
  have hflags (t : Toolset) : t.ldflags s c
      = t.linkerFlags (some project) (s.configuration c) := by
    rw [Toolset.ldflags, howner]
  unfold resolve settle asked
  simp only [Registry.resolve, describe_of_owner howner, hlinks, resolveLinkOptions, hflags,
    searchHeader_of_owner howner]
  -- With the links and the header found, the steps that may fail are those of `settle`.
  cases x.registry.get (chosenToolset x.override (s.configuration c))
    (some (project.contextOf (s.configuration c))) with
  | error d => rfl
  | ok t =>
    cases Standard.ofLabel (s.configuration c).dialect (s.configuration c).pic with
    | error problem => rfl
    | ok standard => rfl

end

namespace Setting

variable {x : Setting} {project : Project} {settings : Configuration}

theorem get?_of_asked {t : Toolset} {standard : Option Standard}
    (h : x.asked project settings = .ok (t, standard)) :
    x.registry.get? (chosenToolset x.override settings) = some t := by
  obtain ⟨t', ht, h⟩ := bind_eq_ok_iff.mp h
  obtain ⟨_, -, h⟩ := bind_eq_ok_iff.mp h
  cases h
  exact Registry.get?_of_get (mapError_eq_ok_iff.mp ht)

/-- Settings amount to the same in two stores in which their links lead to the same files. -/
theorem settle_congr {s s' : Store}
    (h : ∀ t, x.registry.get? (chosenToolset x.override settings) = some t →
      ∀ entry ∈ settings.links, t.link s' x.host.cwd (some project) settings entry
        = t.link s x.host.cwd (some project) settings entry) :
    x.settle s' project settings = x.settle s project settings := by
  refine map_congr_of_ok fun found hfound => ?_
  obtain ⟨t, standard⟩ := found
  dsimp only
  unfold amount
  congr 1
  refine List.map_congr_left fun entry hentry => ?_
  rw [h t (get?_of_asked hfound) entry hentry]

end Setting

end CMakeGen
