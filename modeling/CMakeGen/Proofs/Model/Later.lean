import CMakeGen.Proofs.Model.Agreement
import CMakeGen.Proofs.Model.History

/-!
# Additions elsewhere

A project keeps what it has while others grow: **an action that adds something to other projects, and none
of the configurations of this one, changes neither the project nor its configurations, and of the others
only what they are related to** (`Keeps.perform`, and `Keeps.performAll` for a row of such actions).

It does take away a configuration to hand it to another project. `Kept` says of a history that this has
not happened, and then the project owns the configuration (`Reaches.owner_of_kept`).
-/

namespace CMakeGen

/-- A project without the projects and configurations it is related to. -/
def Project.alone (p : Project) : Project := { p with dependencies := [], configurations := [] }

theorem Project.alone_eq_iff {p q : Project} :
    p.alone = q.alone ↔ p.name = q.name ∧ p.kind = q.kind ∧ p.baseDir = q.baseDir ∧
      p.location = q.location ∧ p.files = q.files := by
  simp [alone]

namespace Store

/-- The store after a row of actions. -/
def performAll (s : Store) (actions : List Action) : Store := actions.foldl Action.perform s

/-- Each action speaks of what is there at its turn. -/
def AllAllowed (s : Store) : List Action → Prop
  | [] => True
  | action :: rest => action.Allowed s ∧ (action.perform s).AllAllowed rest

/-- What is accepted in a row of actions. -/
def acceptedAlong (s : Store) : List Action → List (ProjectId × ConfigurationId)
  | [] => []
  | action :: rest => action.accepted s ++ (action.perform s).acceptedAlong rest

/-- An action adds nothing to a project, and none of the given configurations to any. -/
def Action.Elsewhere (p : ProjectId) (configurations : List ConfigurationId) : Action → Prop
  | .newProject _ | .newConfiguration _ => True
  | .addConfiguration q c => q ≠ p ∧ c ∉ configurations
  | .addDependency q _ => q ≠ p
  | .change _ _ => False

/-- A configuration is attached, or it is refused and nothing happens. -/
theorem Action.perform_addConfiguration (s : Store) (p : ProjectId) (c : ConfigurationId) :
    (Action.addConfiguration p c).perform s = s ∨
      (Action.addConfiguration p c).perform s = s.attach p c := by
  rw [perform]
  rcases hadd : s.addConfiguration p c with ⟨s', _ | d⟩
  · exact .inr (addConfiguration_eq_none_iff.mp hadd).2.2
  · exact .inl (addConfiguration_refused hadd).1

/-! ## What additions elsewhere keep -/

/-- A project of `s` and its configurations are the same in a later store, and all projects of `s` are
what they were up to what they are related to. -/
structure Keeps (p : ProjectId) (s s' : Store) : Prop where
  project : s'.project p = s.project p
  attachment : ∀ c ∈ (s.project p).configurations, s'.attachment c = s.attachment c
  alone : ∀ q : ProjectId, q.index < s.projects.length →
    (s'.project q).alone = (s.project q).alone
  projects : s.projects.length ≤ s'.projects.length
  configurations : s.configurations.length ≤ s'.configurations.length

namespace Keeps

variable {p : ProjectId} {s s₁ : Store}

theorem refl (p : ProjectId) (s : Store) : Keeps p s s where
  project := rfl
  attachment _ _ := rfl
  alone _ _ := rfl
  projects := Nat.le_refl _
  configurations := Nat.le_refl _

theorem addProject (h : Keeps p s s₁) (hp : p.index < s.projects.length) (project : Project) :
    Keeps p s (s₁.addProject project).1 := by
  have hold (q : ProjectId) (hq : q.index < s.projects.length) :
      (s₁.addProject project).1.project q = s₁.project q :=
    s₁.project_addProject_of_lt project (Nat.lt_of_lt_of_le hq h.projects)
  refine ⟨(hold p hp).trans h.project, h.attachment, fun q hq => ?_, ?_, h.configurations⟩
  · rw [hold q hq, h.alone q hq]
  · rw [length_projects_addProject]
    exact Nat.le_succ_of_le h.projects

theorem newConfiguration (h : Keeps p s s₁)
    (hlisted : ∀ c ∈ (s.project p).configurations, c.index < s.configurations.length)
    (settings : Configuration) : Keeps p s (s₁.newConfiguration settings).1 := by
  refine ⟨h.project, fun c hc => ?_, h.alone, h.projects, ?_⟩
  · have hne : c.index ≠ s₁.configurations.length :=
      Nat.ne_of_lt (Nat.lt_of_lt_of_le (hlisted c hc) h.configurations)
    rw [attachment_newConfiguration, if_neg hne]
    exact h.attachment c hc
  · rw [length_configurations_newConfiguration]
    exact Nat.le_succ_of_le h.configurations

/-- Another project is given more to be related to. -/
theorem modifyProject (h : Keeps p s s₁) {q : ProjectId} (hq : q ≠ p) {f : Project → Project}
    (hf : ∀ project, (f project).alone = project.alone) : Keeps p s (s₁.modifyProject q f) := by
  refine ⟨?_, h.attachment, fun r hr => ?_, ?_, h.configurations⟩
  · rw [project_modifyProject, if_neg fun hboth => hq hboth.1.symm]
    exact h.project
  · rw [project_modifyProject]
    split
    · rw [hf, h.alone r hr]
    · exact h.alone r hr
  · have hlength : (s₁.modifyProject q f).projects.length = s₁.projects.length := by
      simp [Store.modifyProject]
    rw [hlength]
    exact h.projects

/-- A configuration of another project gets an owner. -/
theorem modifyAttachment (h : Keeps p s s₁) {c : ConfigurationId}
    (hc : c ∉ (s.project p).configurations) (f : Attachment → Attachment) :
    Keeps p s (s₁.modifyAttachment c f) := by
  refine ⟨h.project, fun d hd => ?_, h.alone, h.projects, ?_⟩
  · have hne : d ≠ c := fun heq => hc (heq ▸ hd)
    rw [attachment_modifyAttachment, if_neg fun hboth => hne hboth.1]
    exact h.attachment d hd
  · have hlength : (s₁.modifyAttachment c f).configurations.length = s₁.configurations.length := by
      simp [Store.modifyAttachment]
    rw [hlength]
    exact h.configurations

/-- **One action elsewhere keeps a project.** -/
theorem perform (h : Keeps p s s₁) (hp : p.index < s.projects.length)
    (hlisted : ∀ c ∈ (s.project p).configurations, c.index < s.configurations.length)
    {action : Action} (helsewhere : action.Elsewhere p (s.project p).configurations) :
    Keeps p s (action.perform s₁) := by
  cases action with
  | newProject data => exact h.addProject hp _
  | newConfiguration settings => exact h.newConfiguration hlisted settings
  | addConfiguration q c =>
    rcases Action.perform_addConfiguration s₁ q c with hsame | hattached
    · rw [hsame]
      exact h
    · have hrelated (project : Project) :
          Project.alone { project with configurations := project.configurations ++ [c] }
            = project.alone := rfl
      rw [hattached]
      exact (h.modifyProject helsewhere.1 hrelated).modifyAttachment helsewhere.2 _
  | addDependency q on => exact h.modifyProject helsewhere fun _ => rfl
  | change c f => cases helsewhere

theorem performAll (h : Keeps p s s₁) (hp : p.index < s.projects.length)
    (hlisted : ∀ c ∈ (s.project p).configurations, c.index < s.configurations.length)
    {more : List Action}
    (hmore : ∀ action ∈ more, action.Elsewhere p (s.project p).configurations) :
    Keeps p s (s₁.performAll more) := by
  induction more generalizing s₁ with
  | nil => exact h
  | cons action rest ih =>
    obtain ⟨helsewhere, hrest⟩ := List.forall_mem_cons.mp hmore
    exact ih (h.perform hp hlisted helsewhere) hrest

end Keeps

/-! ## Histories -/

variable {actions : List Action} {accepted : List (ProjectId × ConfigurationId)} {s : Store}

/-- No project is given a dependency that is not there. -/
theorem Action.dependencies_lt {action : Action} (allowed : action.Allowed s)
    (h : ∀ p, ∀ d ∈ (s.project p).dependencies, d.index < s.projects.length) :
    ∀ p, ∀ d ∈ ((action.perform s).project p).dependencies,
      d.index < (action.perform s).projects.length := by
  intro p d hd
  cases action with
  | newProject data =>
    unfold perform at hd ⊢
    rw [length_projects_addProject]
    rw [project_addProject] at hd
    split at hd
    · cases hd
    · exact Nat.lt_succ_of_lt (h p d hd)
  | newConfiguration settings => exact h p d hd
  | addConfiguration q c =>
    rcases perform_addConfiguration s q c with hsame | hattached
    · rw [hsame] at hd ⊢
      exact h p d hd
    · rw [hattached] at hd ⊢
      rw [attach, project_modifyAttachment, project_modifyProject] at hd
      rw [length_projects_attach]
      split at hd
      · exact h p d hd
      · exact h p d hd
  | addDependency q on =>
    unfold perform at hd ⊢
    rw [length_projects_addDependency]
    rw [project_addDependency] at hd
    split at hd
    · rcases List.mem_append.mp hd with hd | hd
      · exact h p d hd
      · rw [List.mem_singleton.mp hd]
        exact allowed.2
    · exact h p d hd
  | change c f => exact h p d hd

theorem Reaches.dependencies_lt (h : Reaches actions accepted s) :
    ∀ p, ∀ d ∈ (s.project p).dependencies, d.index < s.projects.length := by
  induction h with
  | nothing =>
    intro p d hd
    cases hd
  | act _ allowed ih => exact Action.dependencies_lt allowed ih

/-- A history goes on. -/
theorem Reaches.performAll (h : Reaches actions accepted s) {more : List Action}
    (hmore : s.AllAllowed more) :
    Reaches (actions ++ more) (accepted ++ s.acceptedAlong more) (s.performAll more) := by
  induction more generalizing actions accepted s with
  | nil => simpa [acceptedAlong, Store.performAll] using h
  | cons action rest ih =>
    obtain ⟨hallowed, hrest⟩ := hmore
    have hnext := ih (h.act hallowed) hrest
    rw [List.append_assoc, List.append_assoc] at hnext
    exact hnext

/-- After `p` accepts the configuration, no other project does. -/
def Kept (accepted : List (ProjectId × ConfigurationId)) (p : ProjectId) (c : ConfigurationId) :
    Prop :=
  accepted.Pairwise fun earlier later => earlier = (p, c) → later.2 = c → later.1 = p

instance (accepted : List (ProjectId × ConfigurationId)) (p : ProjectId) (c : ConfigurationId) :
    Decidable (Kept accepted p c) :=
  inferInstanceAs (Decidable (List.Pairwise _ _))

theorem Kept.getLast?_acceptorsOf {p : ProjectId} {c : ConfigurationId} (h : Kept accepted p c)
    (hmem : (p, c) ∈ accepted) : (acceptorsOf accepted c).getLast? = some p := by
  obtain ⟨before, after, rfl⟩ := List.append_of_mem hmem
  obtain ⟨-, hafter, -⟩ := List.pairwise_append.mp h
  have hsame : ∀ q ∈ p :: acceptorsOf after c, q = p := by
    intro q hq
    rcases List.mem_cons.mp hq with rfl | hq
    · rfl
    · exact (List.pairwise_cons.mp hafter).1 (q, c) (mem_acceptorsOf.mp hq) rfl rfl
  have hsplit : acceptorsOf (before ++ (p, c) :: after) c
      = acceptorsOf before c ++ p :: acceptorsOf after c := by
    simp [acceptorsOf]
  rw [hsplit, List.getLast?_append_of_ne_nil _ (List.cons_ne_nil _ _),
    List.getLast?_eq_some_getLast (List.cons_ne_nil _ _)]
  exact congrArg some (hsame _ (List.getLast_mem _))

/-- A project owns the configurations that it lists and has kept. -/
theorem Reaches.owner_of_kept (h : Reaches actions accepted s) {p : ProjectId}
    {c : ConfigurationId} (hc : c ∈ (s.project p).configurations) (hkept : Kept accepted p c) :
    (s.attachment c).owner = some p := by
  rw [h.recorded.listed] at hc
  rw [h.recorded.owned, hkept.getLast?_acceptorsOf (mem_acceptedBy.mp hc)]

end Store

end CMakeGen
