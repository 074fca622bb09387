import CMakeGen.Proofs.Model.Store

/-!
# Stores that agree on what is old

Identifiers are handed out in order, so what a store holds at some time is told by two numbers, and a
later store *agrees* with it if the first `n` projects and the first `m` configurations are what they
were. **Every operation on something newer keeps this**, whatever else it changes. That is all that a
reader who goes on adding to a store has to know about what was read before.

Dependencies are the exception, since they are added when all projects are there. For them the lemmas
at the end say what becomes of each project.
-/

namespace CMakeGen.Store

/-- The first `n` projects and the first `m` configurations are the same in both stores. -/
structure Agree (n m : Nat) (s s' : Store) : Prop where
  project : ∀ p : ProjectId, p.index < n → s'.project p = s.project p
  attachment : ∀ c : ConfigurationId, c.index < m → s'.attachment c = s.attachment c

namespace Agree

variable {n m : Nat} {s s₁ s₂ : Store}

theorem refl (n m : Nat) (s : Store) : Agree n m s s := ⟨fun _ _ => rfl, fun _ _ => rfl⟩

theorem trans (h₁ : Agree n m s s₁) (h₂ : Agree n m s₁ s₂) : Agree n m s s₂ where
  project p hp := (h₂.project p hp).trans (h₁.project p hp)
  attachment c hc := (h₂.attachment c hc).trans (h₁.attachment c hc)

theorem mono {n' m' : Nat} (h : Agree n m s s₁) (hn : n' ≤ n) (hm : m' ≤ m) :
    Agree n' m' s s₁ where
  project p hp := h.project p (Nat.lt_of_lt_of_le hp hn)
  attachment c hc := h.attachment c (Nat.lt_of_lt_of_le hc hm)

theorem configuration (h : Agree n m s s₁) {c : ConfigurationId} (hc : c.index < m) :
    s₁.configuration c = s.configuration c := by
  rw [Store.configuration, Store.configuration, h.attachment c hc]

theorem addProject (h : Agree n m s s₁) (hn : n ≤ s₁.projects.length) (project : Project) :
    Agree n m s (s₁.addProject project).1 where
  project p hp := by
    rw [project_addProject_of_lt _ _ (Nat.lt_of_lt_of_le hp hn)]
    exact h.project p hp
  attachment := h.attachment

theorem newConfiguration (h : Agree n m s s₁) (hm : m ≤ s₁.configurations.length)
    (settings : Configuration) : Agree n m s (s₁.newConfiguration settings).1 where
  project := h.project
  attachment c hc := by
    rw [attachment_newConfiguration, if_neg (by omega)]
    exact h.attachment c hc

theorem attach (h : Agree n m s s₁) {p : ProjectId} {c : ConfigurationId} (hp : n ≤ p.index)
    (hc : m ≤ c.index) : Agree n m s (s₁.attach p c) where
  project q hq := by
    have hne : q ≠ p := by
      rintro rfl
      omega
    rw [Store.attach, project_modifyAttachment, project_modifyProject,
      if_neg fun hboth => hne hboth.1]
    exact h.project q hq
  attachment d hd := by
    have hne : d ≠ c := by
      rintro rfl
      omega
    rw [Store.attach, attachment_modifyAttachment, if_neg fun hboth => hne hboth.1,
      attachment_modifyProject]
    exact h.attachment d hd

end Agree

/-! ## How far a store has come -/

section

variable (s : Store)

@[simp] theorem length_projects_addProject (project : Project) :
    (s.addProject project).1.projects.length = s.projects.length + 1 := by
  simp [addProject]

@[simp] theorem length_configurations_newConfiguration (settings : Configuration) :
    (s.newConfiguration settings).1.configurations.length = s.configurations.length + 1 := by
  simp [newConfiguration]

@[simp] theorem length_projects_attach (p : ProjectId) (c : ConfigurationId) :
    (s.attach p c).projects.length = s.projects.length := by
  simp [attach, modifyProject, modifyAttachment]

@[simp] theorem length_configurations_attach (p : ProjectId) (c : ConfigurationId) :
    (s.attach p c).configurations.length = s.configurations.length := by
  simp [attach, modifyProject, modifyAttachment]

@[simp] theorem length_projects_addDependency (p on : ProjectId) :
    (s.addDependency p on).projects.length = s.projects.length := by
  simp [addDependency, modifyProject]

theorem project_attach_self {p : ProjectId} (hp : p.index < s.projects.length)
    (c : ConfigurationId) : (s.attach p c).project p
      = { s.project p with configurations := (s.project p).configurations ++ [c] } := by
  rw [attach, project_modifyAttachment, project_modifyProject, if_pos ⟨rfl, hp⟩]

theorem project_addDependency (p on q : ProjectId) :
    (s.addDependency p on).project q
      = if q = p ∧ p.index < s.projects.length then
          { s.project q with dependencies := (s.project q).dependencies ++ [on] }
        else s.project q :=
  project_modifyProject s p q _

end

end CMakeGen.Store
