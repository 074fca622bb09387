import CMakeGen.Proofs.Model.Unnoticed

/-!
# A model with another toolset

`Store.retool` has every configuration of a store ask for one toolset. Nothing that a store is asked for
depends on the toolsets in it but these themselves, so **the change can be made before or after any other
change to the store** (`retool_addProject`, `retool_newConfiguration`, `unnoticed_retool`), refusals
included.

A configuration that was never handed out has no settings that could be changed. So what holds of all
identifiers is that the settings differ in the toolset alone (`configuration_retool`), and that it is the
given one only holds of those that are there (`configuration_retool_of_lt`).
-/

namespace CMakeGen

/-- The same settings with a toolset that is asked for. -/
def Configuration.withToolset (settings : Configuration) (t : String) : Configuration :=
  { settings with toolset := some t }

namespace Store

/-- The same model with every configuration asking for a toolset. -/
def retool (s : Store) (t : String) : Store :=
  { s with configurations := s.configurations.map fun a =>
      { a with settings := a.settings.withToolset t } }

variable {s : Store} {c : ConfigurationId}

/-! ## What is asked for -/

@[simp] theorem project_retool (s : Store) (t : String) (p : ProjectId) :
    (s.retool t).project p = s.project p := rfl

theorem attachment_retool (t : String) (hc : c.index < s.configurations.length) :
    (s.retool t).attachment c
      = { s.attachment c with settings := (s.configuration c).withToolset t } := by
  unfold configuration attachment retool
  simp [List.getD_eq_getElem?_getD, hc]

theorem attachment_retool_of_le (t : String) (hc : s.configurations.length ≤ c.index) :
    (s.retool t).attachment c = s.attachment c := by
  unfold attachment retool
  simp [List.getD_eq_getElem?_getD, hc]

/-- The settings are the same but for the toolset. -/
theorem configuration_retool (s : Store) (t : String) (c : ConfigurationId) :
    ∃ toolset, (s.retool t).configuration c = { s.configuration c with toolset := toolset } := by
  rcases Nat.lt_or_ge c.index s.configurations.length with hc | hc
  · refine ⟨some t, ?_⟩
    rw [configuration, attachment_retool t hc]
    rfl
  · refine ⟨(s.configuration c).toolset, ?_⟩
    rw [configuration, attachment_retool_of_le t hc]
    rfl

theorem configuration_retool_of_lt (t : String) (hc : c.index < s.configurations.length) :
    (s.retool t).configuration c = (s.configuration c).withToolset t := by
  rw [configuration, attachment_retool t hc]

@[simp] theorem name_retool (s : Store) (t : String) (c : ConfigurationId) :
    ((s.retool t).configuration c).name = (s.configuration c).name := by
  obtain ⟨toolset, h⟩ := configuration_retool s t c
  rw [h]

@[simp] theorem owner?_retool (s : Store) (t : String) (c : ConfigurationId) :
    (s.retool t).owner? c = s.owner? c := by
  have howner : ((s.retool t).attachment c).owner = (s.attachment c).owner := by
    rcases Nat.lt_or_ge c.index s.configurations.length with hc | hc
    · rw [attachment_retool t hc]
    · rw [attachment_retool_of_le t hc]
  unfold owner?
  rw [howner]
  rfl

@[simp] theorem describe_retool (s : Store) (t : String) (c : ConfigurationId) :
    (s.retool t).describe c = s.describe c := by
  unfold describe
  rw [name_retool, owner?_retool]

@[simp] theorem findConfiguration_retool (s : Store) (t : String) (project : Project)
    (name : String) :
    (s.retool t).findConfiguration project name = s.findConfiguration project name := by
  unfold findConfiguration
  simp only [name_retool]

/-! ## What is changed -/

theorem retool_addProject (s : Store) (t : String) (project : Project) :
    (s.retool t).addProject project
      = ((s.addProject project).1.retool t, (s.addProject project).2) := rfl

theorem retool_newConfiguration (s : Store) (t : String) (settings : Configuration) :
    (s.retool t).newConfiguration (settings.withToolset t)
      = ((s.newConfiguration settings).1.retool t, (s.newConfiguration settings).2) := by
  unfold newConfiguration retool
  simp

theorem retool_attach (s : Store) (t : String) (p : ProjectId) (c : ConfigurationId) :
    (s.retool t).attach p c = (s.attach p c).retool t := by
  unfold attach modifyAttachment retool modifyProject
  refine congrArg (Store.mk _) (modify_map ?_ _ _)
  intro a
  rfl

theorem retool_addDependency (s : Store) (t : String) (p on : ProjectId) :
    (s.retool t).addDependency p on = (s.addDependency p on).retool t := rfl

theorem unnoticed_retool (t : String) : Unnoticed fun s => s.retool t where
  configurationName s c := name_retool s t c
  projectName _ _ := rfl
  configurations _ _ := rfl
  attach s p c := retool_attach s t p c
  addDependency s p on := retool_addDependency s t p on

end Store

end CMakeGen
