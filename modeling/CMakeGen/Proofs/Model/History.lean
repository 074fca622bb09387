import CMakeGen.Proofs.Model.Store

/-!
# Histories

Configurations are shared: one may be added to several projects, and each of them lists it. So what a
store says about a configuration cannot be read off the project that lists it, but it can be read off
the history. **In every store that actions build from nothing, a project lists exactly what it
accepted, in that order, and a configuration belongs to the last project that accepted it**
(`books_of_reaches`).

A project refuses a configuration with a bad or a repeated name, so next to the actions a history has
the row of those additions that were accepted. One action adds at most one entry to it (`accepted`),
and `Recorded` is what every action preserves. Nothing is assumed about who else lists a
configuration; in that `Recorded` differs from `Coherent`, which sharing breaks.
-/

namespace CMakeGen.Store

/-! ## Actions -/

/-- What can be done to a store. -/
inductive Action where
  /-- Make a project. It starts without dependencies and configurations. -/
  | newProject (data : Project)
  | newConfiguration (settings : Configuration)
  | addConfiguration (p : ProjectId) (c : ConfigurationId)
  | addDependency (p on : ProjectId)
  /-- Change the settings of a configuration. -/
  | change (c : ConfigurationId) (f : Configuration → Configuration)

/-- The store after an action, also if a configuration was refused. -/
def Action.perform (s : Store) : Action → Store
  | .newProject data => (s.addProject { data with dependencies := [], configurations := [] }).1
  | .newConfiguration settings => (s.newConfiguration settings).1
  | .addConfiguration p c => (s.addConfiguration p c).1
  | .addDependency p on => s.addDependency p on
  | .change c f => s.modifySettings c f

/-- An action speaks of what is there, and changes no name. -/
def Action.Allowed (s : Store) : Action → Prop
  | .newProject _ | .newConfiguration _ => True
  | .addConfiguration p c => p.index < s.projects.length ∧ c.index < s.configurations.length
  | .addDependency p on => p.index < s.projects.length ∧ on.index < s.projects.length
  | .change c f =>
    c.index < s.configurations.length ∧ ∀ settings, (f settings).name = settings.name

/-- The project and the configuration that it accepts by an action, if it does. -/
def Action.accepted (s : Store) : Action → List (ProjectId × ConfigurationId)
  | .addConfiguration p c =>
    match (s.addConfiguration p c).2 with
    | none => [(p, c)]
    | some _ => []
  | _ => []

/-- The dependency that an action gives to a project, if it does. -/
def Action.dependency? (p : ProjectId) : Action → Option ProjectId
  | .addDependency q on => if q = p then some on else none
  | _ => none

/-- A store that a row of actions builds from nothing, and what was accepted on the way. -/
inductive Reaches : List Action → List (ProjectId × ConfigurationId) → Store → Prop where
  | nothing : Reaches [] [] .empty
  | act {actions : List Action} {accepted : List (ProjectId × ConfigurationId)} {s : Store}
      {action : Action} (before : Reaches actions accepted s) (allowed : action.Allowed s) :
      Reaches (actions ++ [action]) (accepted ++ action.accepted s) (action.perform s)

def acceptedBy (accepted : List (ProjectId × ConfigurationId)) (p : ProjectId) :
    List ConfigurationId :=
  (accepted.filter (·.1 = p)).map (·.2)

def acceptorsOf (accepted : List (ProjectId × ConfigurationId)) (c : ConfigurationId) :
    List ProjectId :=
  (accepted.filter (·.2 = c)).map (·.1)

theorem acceptedBy_concat (accepted : List (ProjectId × ConfigurationId)) (p q : ProjectId)
    (c : ConfigurationId) :
    acceptedBy (accepted ++ [(p, c)]) q
      = if q = p then acceptedBy accepted q ++ [c] else acceptedBy accepted q := by
  by_cases h : q = p
  · simp [acceptedBy, h]
  · simp [acceptedBy, h, Ne.symm h]

theorem getLast?_acceptorsOf_concat (accepted : List (ProjectId × ConfigurationId))
    (p : ProjectId) (c d : ConfigurationId) :
    (acceptorsOf (accepted ++ [(p, c)]) d).getLast?
      = if d = c then some p else (acceptorsOf accepted d).getLast? := by
  by_cases h : d = c
  · simp [acceptorsOf, h]
  · simp [acceptorsOf, h, Ne.symm h]

theorem mem_acceptedBy {accepted : List (ProjectId × ConfigurationId)} {p : ProjectId}
    {c : ConfigurationId} : c ∈ acceptedBy accepted p ↔ (p, c) ∈ accepted := by
  simp [acceptedBy]

theorem mem_acceptorsOf {accepted : List (ProjectId × ConfigurationId)} {p : ProjectId}
    {c : ConfigurationId} : p ∈ acceptorsOf accepted c ↔ (p, c) ∈ accepted := by
  simp [acceptorsOf]

/-! ## What every action preserves -/

/-- The store is what was recorded. -/
structure Recorded (actions : List Action) (accepted : List (ProjectId × ConfigurationId))
    (s : Store) : Prop where
  wellNamed : s.WellNamed
  listed : ∀ p, (s.project p).configurations = acceptedBy accepted p
  owned : ∀ c, (s.attachment c).owner = (acceptorsOf accepted c).getLast?
  dependencies : ∀ p, (s.project p).dependencies = actions.filterMap (Action.dependency? p)

namespace Recorded

variable {actions : List Action} {accepted : List (ProjectId × ConfigurationId)} {s : Store}

theorem nothing : Recorded [] [] .empty where
  wellNamed := .empty
  listed _ := rfl
  owned _ := rfl
  dependencies _ := rfl

theorem newProject (h : Recorded actions accepted s) {project : Project}
    (hconfigurations : project.configurations = []) (hdependencies : project.dependencies = []) :
    Recorded actions accepted (s.addProject project).1 := by
  -- The identifier that is handed out next has no history.
  have hnext : (s.project ⟨s.projects.length⟩) = default := by
    simp [Store.project]
  refine ⟨h.wellNamed.addProject hconfigurations, fun p => ?_, h.owned, fun p => ?_⟩
  · rw [← h.listed, project_addProject]
    split
    · next hp =>
      obtain rfl : p = ⟨s.projects.length⟩ := congrArg ProjectId.mk hp
      rw [hconfigurations, hnext]
      rfl
    · rfl
  · rw [← h.dependencies, project_addProject]
    split
    · next hp =>
      obtain rfl : p = ⟨s.projects.length⟩ := congrArg ProjectId.mk hp
      rw [hdependencies, hnext]
      rfl
    · rfl

theorem newConfiguration (h : Recorded actions accepted s) (settings : Configuration) :
    Recorded actions accepted (s.newConfiguration settings).1 := by
  refine ⟨h.wellNamed.newConfiguration settings, h.listed, fun c => ?_, h.dependencies⟩
  rw [← h.owned, attachment_newConfiguration]
  split
  · next hc =>
    obtain rfl : c = ⟨s.configurations.length⟩ := congrArg ConfigurationId.mk hc
    simp [attachment, default]
  · rfl

theorem attach (h : Recorded actions accepted s) {p : ProjectId} {c : ConfigurationId}
    (hp : p.index < s.projects.length) (hc : c.index < s.configurations.length)
    (hname : isConfigurationName (s.configuration c).name = true)
    (hnew : s.findConfiguration (s.project p) (s.configuration c).name = none) :
    Recorded actions (accepted ++ [(p, c)]) (s.attach p c) := by
  refine ⟨h.wellNamed.attach hname hnew, fun q => ?_, fun d => ?_, fun q => ?_⟩
  · rw [configurations_attach, acceptedBy_concat, h.listed]
    simp only [hp, and_true]
  · rw [owner_attach hc, getLast?_acceptorsOf_concat, h.owned]
  · rw [← h.dependencies, Store.attach, project_modifyAttachment, project_modifyProject]
    split <;> rfl

theorem addDependency (h : Recorded actions accepted s) {p on : ProjectId}
    (hp : p.index < s.projects.length) :
    Recorded (actions ++ [.addDependency p on]) accepted (s.addDependency p on) := by
  refine ⟨h.wellNamed.addDependency p on, fun q => ?_, h.owned, fun q => ?_⟩
  · rw [configurations_addDependency, h.listed]
  · rw [List.filterMap_append, ← h.dependencies, Store.addDependency, project_modifyProject]
    by_cases hq : q = p
    · simp [hq, hp, Action.dependency?]
    · simp [hq, Ne.symm hq, Action.dependency?]

theorem change (h : Recorded actions accepted s) (c : ConfigurationId)
    {f : Configuration → Configuration} (hf : ∀ settings, (f settings).name = settings.name) :
    Recorded actions accepted (s.modifySettings c f) := by
  refine ⟨h.wellNamed.congr (fun _ => .inr rfl) fun d _ => ?_, h.listed, fun d => ?_,
    h.dependencies⟩
  · rw [configuration, modifySettings, attachment_modifyAttachment]
    split
    · exact hf _
    · rfl
  · rw [← h.owned, modifySettings, attachment_modifyAttachment]
    split <;> rfl

theorem concat {action : Action} (h : Recorded actions accepted s)
    (hnone : ∀ p, action.dependency? p = none) : Recorded (actions ++ [action]) accepted s where
  wellNamed := h.wellNamed
  listed := h.listed
  owned := h.owned
  dependencies p := by
    rw [h.dependencies, List.filterMap_append, List.filterMap_cons_none (hnone p)]
    exact (List.append_nil _).symm

theorem perform {action : Action} (h : Recorded actions accepted s) (allowed : action.Allowed s) :
    Recorded (actions ++ [action]) (accepted ++ action.accepted s) (action.perform s) := by
  cases action with
  | newProject data =>
    show Recorded _ (accepted ++ []) _
    rw [List.append_nil]
    exact (h.newProject rfl rfl).concat fun _ => rfl
  | newConfiguration settings =>
    show Recorded _ (accepted ++ []) _
    rw [List.append_nil]
    exact (h.newConfiguration settings).concat fun _ => rfl
  | addConfiguration p c =>
    rw [Action.accepted, Action.perform]
    rcases hadd : s.addConfiguration p c with ⟨s', _ | d⟩
    · -- This is the only action that accepts anything.
      obtain ⟨hname, hnew, rfl⟩ := addConfiguration_eq_none_iff.mp hadd
      exact (h.attach allowed.1 allowed.2 hname hnew).concat fun _ => rfl
    · obtain ⟨rfl, -⟩ := addConfiguration_refused hadd
      show Recorded _ (accepted ++ []) _
      rw [List.append_nil]
      exact h.concat fun _ => rfl
  | addDependency p on =>
    show Recorded _ (accepted ++ []) _
    rw [List.append_nil]
    exact h.addDependency allowed.1
  | change c f =>
    show Recorded _ (accepted ++ []) _
    rw [List.append_nil]
    exact (h.change c allowed.2).concat fun _ => rfl

end Recorded

theorem Reaches.recorded {actions : List Action} {accepted : List (ProjectId × ConfigurationId)}
    {s : Store} (h : Reaches actions accepted s) : Recorded actions accepted s := by
  induction h with
  | nothing => exact .nothing
  | act _ allowed ih => exact ih.perform allowed

/-! ## The books of a store -/

/-- What a history says about the store that it leads to. -/
structure Books (actions : List Action) (accepted : List (ProjectId × ConfigurationId))
    (s : Store) : Prop where
  distinct : ∀ p, ((s.project p).configurations.map fun c => (s.configuration c).name).Nodup
  named : ∀ p, ∀ c ∈ (s.project p).configurations, (s.configuration c).name ≠ "" ∧
    ∀ x ∈ (s.configuration c).name.toList, x.isAlphanum = true ∨ x = '_'
  /-- A project lists what it accepted. -/
  listed : ∀ p, (s.project p).configurations = acceptedBy accepted p
  found : ∀ p name c, s.findConfiguration (s.project p) name = some c ↔
    c ∈ (s.project p).configurations ∧ (s.configuration c).name = name
  /-- The owner is the last project that accepted the configuration, if any did. -/
  owned : ∀ c, (s.attachment c).owner = (acceptorsOf accepted c).getLast?
  listedByOwner : ∀ c p, (s.attachment c).owner = some p → c ∈ (s.project p).configurations
  dependencies : ∀ p, (s.project p).dependencies = actions.filterMap (Action.dependency? p)
  /-- A configuration is refused for its name, or for that of another one, and then nothing
  changes. -/
  refused : ∀ p c s' d, s.addConfiguration p c = (s', some d) →
    s' = s ∧ (Action.addConfiguration p c).perform s = s ∧
      (isConfigurationName (s.configuration c).name = false ∨
        ∃ e ∈ (s.project p).configurations, (s.configuration e).name = (s.configuration c).name)

/-- **Every store that is built from nothing keeps its books.** -/
theorem books_of_reaches {actions : List Action} {accepted : List (ProjectId × ConfigurationId)}
    {s : Store} (h : Reaches actions accepted s) : Books actions accepted s where
  distinct := h.recorded.wellNamed.distinct
  named p c hc := by
    simpa [isConfigurationName, isNameChar] using h.recorded.wellNamed.named p c hc
  listed := h.recorded.listed
  found p name c := by
    constructor
    · intro hfind
      exact ⟨List.mem_of_find?_eq_some hfind, name_of_findConfiguration hfind⟩
    · rintro ⟨hc, rfl⟩
      exact findConfiguration_of_mem (h.recorded.wellNamed.distinct p) hc
  owned := h.recorded.owned
  listedByOwner c p howner := by
    rw [h.recorded.owned] at howner
    rw [h.recorded.listed]
    exact mem_acceptedBy.mpr (mem_acceptorsOf.mp (List.mem_of_getLast? howner))
  dependencies := h.recorded.dependencies
  refused p c s' d hrefused := by
    obtain ⟨hsame, hname⟩ := addConfiguration_refused hrefused
    refine ⟨hsame, by rw [Action.perform, hrefused, hsame], hname.imp_right fun htaken => ?_⟩
    obtain ⟨e, he⟩ := Option.ne_none_iff_exists'.mp htaken
    exact ⟨e, List.mem_of_find?_eq_some he, name_of_findConfiguration he⟩

end CMakeGen.Store

namespace CMakeGen

/-- Two projects share a configuration, and the first one is offered it twice. -/
def Sample.sharing : List Store.Action :=
  [.newProject { name := "core" }, .newProject { name := "app" },
    .newConfiguration { name := "Debug" }, .addConfiguration ⟨0⟩ ⟨0⟩, .addConfiguration ⟨1⟩ ⟨0⟩,
    .addConfiguration ⟨0⟩ ⟨0⟩, .addDependency ⟨1⟩ ⟨0⟩,
    .change ⟨0⟩ fun settings => { settings with defines := settings.defines ++ ["DEBUG"] }]

def Sample.sharedStore : Store := Sample.sharing.foldl Store.Action.perform .empty

namespace Store

/-- Both list it, and it belongs to the second one. -/
theorem books_of_reaches_sample :
    Books Sample.sharing [(⟨0⟩, ⟨0⟩), (⟨1⟩, ⟨0⟩)] Sample.sharedStore ∧
      (Sample.sharedStore.project ⟨0⟩).configurations = [⟨0⟩] ∧
      (Sample.sharedStore.project ⟨1⟩).configurations = [⟨0⟩] ∧
      (Sample.sharedStore.attachment ⟨0⟩).owner = some ⟨1⟩ ∧
      (Sample.sharedStore.configuration ⟨0⟩).defines = ["DEBUG"] := by
  have hprojects := (Reaches.nothing.act
    (show Action.Allowed _ (.newProject { name := "core" }) from trivial)).act
    (show Action.Allowed _ (.newProject { name := "app" }) from trivial)
  have hconfiguration := hprojects.act
    (show Action.Allowed _ (.newConfiguration { name := "Debug" }) from trivial)
  have haccepted := (hconfiguration.act
    (show Action.Allowed _ (.addConfiguration ⟨0⟩ ⟨0⟩) from ⟨by decide, by decide⟩)).act
    (show Action.Allowed _ (.addConfiguration ⟨1⟩ ⟨0⟩) from ⟨by decide, by decide⟩)
  have hrefused := haccepted.act
    (show Action.Allowed _ (.addConfiguration ⟨0⟩ ⟨0⟩) from ⟨by decide, by decide⟩)
  have hdepends := hrefused.act
    (show Action.Allowed _ (.addDependency ⟨1⟩ ⟨0⟩) from ⟨by decide, by decide⟩)
  have hchanged := hdepends.act
    (show Action.Allowed _ (.change ⟨0⟩ fun settings =>
      { settings with defines := settings.defines ++ ["DEBUG"] }) from ⟨by decide, fun _ => rfl⟩)
  exact ⟨books_of_reaches hchanged, by decide, by decide, by decide, by decide⟩

end Store

end CMakeGen
