import CMakeGen.Proofs.Emission.Owned
import CMakeGen.Proofs.Emission.WorkingDirectory
import CMakeGen.Proofs.Model.Later
import Mathlib.Data.List.Find

/-!
# A project and its own data

A script says for each configuration that a project lists what the configuration resolves to, and it
resolves for its owner. **As long as no other project was handed the configuration, the owner is the
project itself**, so that its links, linker flags and header are found with the location, the kind, the
dependencies and the directory of the project whose script it is (`OwnData.written`).

Then **the script does not change when other projects grow** (`OwnData.later`), except that a library
that is linked can get a configuration of the name that is looked for. That one is meant to be linked
from then on, so the script follows it.
-/

namespace CMakeGen

/-- Libraries are named after what a project is, and not after what it is related to. -/
def Toolset.NamesAlone (t : Toolset) : Prop :=
  ∀ project settings, t.libraryName (project : Project).alone settings
    = t.libraryName project settings

theorem Toolset.namesAlone_of_standard {identifier : String} {t : Toolset}
    (h : Registry.standard.get? identifier = some t) : t.NamesAlone := by
  rcases Registry.eq_of_standard h with rfl | rfl | rfl <;> exact fun _ _ => rfl

/-- The links of a project lead to the same configurations of its libraries in both stores. -/
def SameLinked (s s' : Store) (p : ProjectId) : Prop :=
  ∀ c ∈ (s.project p).configurations, ∀ entry ∈ (s.configuration c).links,
    ∀ d ∈ s.findDependency (s.project p) entry, (s.project d).kind.isLibrary = true →
      Toolset.linkedConfiguration? s' (s'.project d) (s.configuration c).name
        = Toolset.linkedConfiguration? s (s.project d) (s.configuration c).name

instance (s s' : Store) (p : ProjectId) : Decidable (SameLinked s s' p) :=
  inferInstanceAs (Decidable (∀ _ ∈ _, ∀ _ ∈ _, ∀ _ ∈ _, _ → _))

/-! ## What is kept -/

section

open Store

variable {x : Setting} {s s' : Store} {p : ProjectId} (h : Keeps p s s')
  (hdependencies : ∀ d ∈ (s.project p).dependencies, d.index < s.projects.length)

include h

theorem Store.Keeps.owner?_eq {c : ConfigurationId} (hc : c ∈ (s.project p).configurations)
    (howner : (s.attachment c).owner = some p) : s'.owner? c = some (s.project p) := by
  rw [owner?, h.attachment c hc, howner]
  exact congrArg some h.project

include hdependencies

theorem Store.Keeps.findDependency_eq (name : String) :
    s'.findDependency (s.project p) name = s.findDependency (s.project p) name := by
  refine List.find?_congr fun d hd => ?_
  obtain ⟨hname, -⟩ := Project.alone_eq_iff.mp (h.alone d (hdependencies d hd))
  rw [hname]

theorem Store.Keeps.link_eq {t : Toolset} (ht : t.NamesAlone) {settings : Configuration}
    {entry : String}
    (hlinked : ∀ d ∈ s.findDependency (s.project p) entry, (s.project d).kind.isLibrary = true →
      Toolset.linkedConfiguration? s' (s'.project d) settings.name
        = Toolset.linkedConfiguration? s (s.project d) settings.name) (cwd : Location) :
    t.link s' cwd (some (s.project p)) settings entry
      = t.link s cwd (some (s.project p)) settings entry := by
  unfold Toolset.link
  dsimp only
  rw [h.findDependency_eq hdependencies]
  cases hfind : s.findDependency (s.project p) entry with
  | none => rfl
  | some d =>
    have halone := h.alone d (hdependencies d (List.mem_of_find?_eq_some hfind))
    obtain ⟨-, hkind, -, hlocation, -⟩ := Project.alone_eq_iff.mp halone
    have hname (settings : Configuration) :
        t.libraryName (s'.project d) settings = t.libraryName (s.project d) settings := by
      rw [← ht, halone, ht]
    by_cases hlibrary : (s.project d).kind.isLibrary = true
    · have hsame := hlinked d hfind hlibrary
      simp only [Option.map_some, hkind, Toolset.siblingPath, Toolset.libraryPath, hlocation, hname,
        hsame]
    · simp only [Option.map_some, hkind, hlibrary, Bool.false_eq_true, if_false]

theorem Store.Keeps.dependStatements_eq :
    dependStatements s' (s.project p) = dependStatements s (s.project p) := by
  have hnames : (s.project p).dependencies.map (fun d => (s'.project d).name)
      = (s.project p).dependencies.map fun d => (s.project d).name := by
    refine List.map_congr_left fun d hd => ?_
    exact (Project.alone_eq_iff.mp (h.alone d (hdependencies d hd))).1
  rw [CMakeGen.dependStatements_eq, CMakeGen.dependStatements_eq, hnames]

/-- **What is emitted for a project that owns its configurations is kept with it.** -/
theorem Setting.emit_of_keeps
    (howner : ∀ c ∈ (s.project p).configurations, (s.attachment c).owner = some p)
    (hnames : ∀ identifier t, x.registry.get? identifier = some t → t.NamesAlone)
    (hlinked : SameLinked s s' p) : x.emit s' p = x.emit s p := by
  have hconfigurations : ∀ c ∈ (s.project p).configurations,
      x.emitConfiguration s' (s.project p) c = x.emitConfiguration s (s.project p) c := by
    intro c hc
    have hsettings : s'.configuration c = s.configuration c :=
      congrArg Attachment.settings (h.attachment c hc)
    have hsettle : x.settle s' (s.project p) (s.configuration c)
        = x.settle s (s.project p) (s.configuration c) := by
      apply settle_congr
      intro t ht entry hentry
      exact h.link_eq hdependencies (hnames _ t ht) (hlinked c hc entry hentry) x.host.cwd
    have howned : s.owner? c = some (s.project p) := by
      rw [owner?, howner c hc]
      rfl
    unfold emitConfiguration
    rw [resolve_of_owner (h.owner?_eq hc (howner c hc)), resolve_of_owner howned, hsettings, hsettle]
  rw [emit_eq, emit_eq, h.project, emitConfigurations_congr_emit hconfigurations,
    h.dependStatements_eq hdependencies]

end

/-! ## Own data -/

/-- What the script of a project owes to the project alone, and what leaves it as it is. -/
structure OwnData (x : Setting) (accepted : List (ProjectId × ConfigurationId)) (s : Store)
    (p : ProjectId) : Prop where
  owner : ∀ c ∈ (s.project p).configurations, Store.Kept accepted p c →
    (s.attachment c).owner = some p
  /-- What is said about a configuration is what its settings amount to in this very project. -/
  written : ∀ c ∈ (s.project p).configurations, Store.Kept accepted p c →
    x.emitConfiguration s (s.project p) c
      = .ofExcept ((x.settle s (s.project p) (s.configuration c)).map fun r =>
          r.statements (s.project p).name (s.configuration c))
  /-- Other projects may grow. -/
  later : (∀ c ∈ (s.project p).configurations, Store.Kept accepted p c) →
    ∀ more, (∀ action ∈ more, action.Elsewhere p (s.project p).configurations) →
      SameLinked s (s.performAll more) p →
        x.renderProject (s.performAll more) p = x.renderProject s p

/-- **In every store that is built from nothing, a project is rendered with its own data, as long as it
kept its configurations.** -/
theorem ownData_of_reaches {actions : List Store.Action}
    {accepted : List (ProjectId × ConfigurationId)} {s : Store}
    (h : Store.Reaches actions accepted s) {p : ProjectId} (hp : p.index < s.projects.length)
    {x : Setting}
    (hnames : ∀ identifier t, x.registry.get? identifier = some t → t.NamesAlone) :
    OwnData x accepted s p := by
  constructor
  case owner =>
    intro c hc hkept
    exact h.owner_of_kept hc hkept
  case written =>
    intro c hc hkept
    have howned : s.owner? c = some (s.project p) := by
      rw [Store.owner?, h.owner_of_kept hc hkept]
      rfl
    unfold Setting.emitConfiguration
    rw [Setting.resolve_of_owner howned]
  case later =>
    intro hkept more hmore hlinked
    have hlisted : ∀ c ∈ (s.project p).configurations, c.index < s.configurations.length :=
      fun c hc => h.recorded.wellNamed.lt_length hc
    have hkeeps := (Store.Keeps.refl p s).performAll hp hlisted hmore
    rw [Setting.renderProject, Setting.renderProject,
      Setting.emit_of_keeps hkeeps (h.dependencies_lt p)
        (fun c hc => h.owner_of_kept hc (hkept c hc)) hnames hlinked]

/-- A program that links a library, which has no configuration of the same name, and a program next
to it. -/
def Sample.workshop : List Store.Action :=
  [.newProject { name := "app", location := .ofString "/app" },
    .newProject { name := "tool", location := .ofString "/tool" },
    .newProject { name := "core", kind := .staticLibrary, location := .ofString "/core" },
    .newConfiguration { name := "Debug", links := ["core", "x/y.a"], toolset := some "gcc" },
    .newConfiguration { name := "Release", outputDir := "out" },
    .newConfiguration { name := "Debug" },
    .addConfiguration ⟨0⟩ ⟨0⟩, .addConfiguration ⟨2⟩ ⟨1⟩, .addDependency ⟨0⟩ ⟨2⟩]

/-- The store that they are made in. -/
def Sample.workshopStore : Store := Store.empty.performAll Sample.workshop

theorem Sample.reaches_workshop :
    Store.Reaches Sample.workshop [(⟨0⟩, ⟨0⟩), (⟨2⟩, ⟨1⟩)] Sample.workshopStore := by
  have hallowed : Store.empty.AllAllowed Sample.workshop :=
    ⟨trivial, trivial, trivial, trivial, trivial, trivial, ⟨by decide, by decide⟩,
      ⟨by decide, by decide⟩, ⟨by decide, by decide⟩, trivial⟩
  exact Store.Reaches.nothing.performAll hallowed

/-- The library gets another configuration and a dependency, and the other program gets what it is
offered first; the first program stays as it is. -/
theorem ownData_of_reaches_sample :
    Sample.setting.renderProject (Sample.workshopStore.performAll
        [.newConfiguration { name := "Profile" }, .addConfiguration ⟨2⟩ ⟨3⟩,
          .addConfiguration ⟨1⟩ ⟨2⟩, .addConfiguration ⟨1⟩ ⟨2⟩, .addDependency ⟨2⟩ ⟨1⟩]) ⟨0⟩
      = Sample.setting.renderProject Sample.workshopStore ⟨0⟩ := by
  have hown : OwnData Sample.setting [(⟨0⟩, ⟨0⟩), (⟨2⟩, ⟨1⟩)] Sample.workshopStore ⟨0⟩ :=
    ownData_of_reaches Sample.reaches_workshop (by decide)
      fun _ _ => Toolset.namesAlone_of_standard
  refine hown.later (by decide) _ ?_ (by decide)
  intro action haction
  simp only [List.mem_cons, List.not_mem_nil, or_false] at haction
  rcases haction with rfl | rfl | rfl | rfl | rfl
  · trivial
  · exact ⟨by decide, by decide⟩
  · exact ⟨by decide, by decide⟩
  · exact ⟨by decide, by decide⟩
  · show (⟨2⟩ : ProjectId) ≠ ⟨0⟩
    decide

/-- The first program lists a configuration that belongs to another project once that one was handed it,
and its links are then those of the other project; and its links follow the library when that one gets a
configuration of the name that is linked. -/
theorem linkTargets_of_additions :
    (∃ accepted s, Store.Reaches (Sample.workshop ++ [.addConfiguration ⟨1⟩ ⟨0⟩]) accepted s ∧
      ⟨0⟩ ∈ (s.project ⟨0⟩).configurations ∧ (s.attachment ⟨0⟩).owner = some ⟨1⟩ ∧
      (Sample.setting.emit s ⟨0⟩).statements.flatMap Statement.linkTargets
        = ["core", "/tool/x/y.a"]) ∧
    (∃ accepted s, Store.Reaches (Sample.workshop ++ [.addConfiguration ⟨2⟩ ⟨2⟩]) accepted s ∧
      (Sample.setting.emit s ⟨0⟩).statements.flatMap Statement.linkTargets
        = ["/core/libcore.a", "/app/x/y.a"]) ∧
    (Sample.setting.emit Sample.workshopStore ⟨0⟩).statements.flatMap Statement.linkTargets
      = ["/core/out/libcore.a", "/app/x/y.a"] := by
  have hlent : Sample.workshopStore.AllAllowed [.addConfiguration ⟨1⟩ ⟨0⟩] :=
    ⟨⟨by decide, by decide⟩, trivial⟩
  have hgrown : Sample.workshopStore.AllAllowed [.addConfiguration ⟨2⟩ ⟨2⟩] :=
    ⟨⟨by decide, by decide⟩, trivial⟩
  refine ⟨⟨_, _, Sample.reaches_workshop.performAll hlent, ?_, ?_, ?_⟩,
    ⟨_, _, Sample.reaches_workshop.performAll hgrown, ?_⟩, ?_⟩
  · decide
  · decide
  · decide
  · decide
  · decide

end CMakeGen
