import CMakeGen.Model.Store
import Mathlib.Data.List.Nodup

/-!
# The store keeps its books

A project lists its configurations and a configuration knows its owner, so one fact is written down
twice. **The two records agree** in every store that is built by attaching configurations that are
new (`Store.Coherent`), and the names within a project are fit for a guard and all different.

Attaching a configuration that another project lists breaks this: the owner changes, the other
project's list does not. So the step for `attach` asks for one that nobody lists.
-/

namespace CMakeGen

namespace Store

/-! ## Reading after writing -/

theorem getD_concat {α : Type} (items : List α) (item default : α) (j : Nat) :
    (items ++ [item]).getD j default
      = if j = items.length then item else items.getD j default := by
  rw [List.getD_eq_getElem?_getD, List.getD_eq_getElem?_getD]
  rcases Nat.lt_trichotomy j items.length with h | h | h
  · rw [if_neg (Nat.ne_of_lt h), List.getElem?_append_left h]
  · rw [if_pos h, h, List.getElem?_concat_length]
    rfl
  · have hout : (items ++ [item]).length ≤ j := by
      rw [List.length_append]
      exact h
    rw [if_neg (Nat.ne_of_gt h), List.getElem?_eq_none hout,
      List.getElem?_eq_none (Nat.le_of_lt h)]

theorem getD_modify {α : Type} (items : List α) (default : α) (f : α → α) (i j : Nat) :
    (items.modify i f).getD j default
      = if j = i ∧ i < items.length then f (items.getD j default) else items.getD j default := by
  rw [List.getD_eq_getElem?_getD, List.getD_eq_getElem?_getD, List.getElem?_modify]
  by_cases h : j = i
  · subst h
    by_cases hj : j < items.length <;> simp [hj]
  · simp [h, Ne.symm h]

section

variable (s : Store)

theorem project_addProject (project : Project) (p : ProjectId) :
    (s.addProject project).1.project p
      = if p.index = s.projects.length then project else s.project p :=
  getD_concat s.projects project default p.index

theorem project_addProject_self (project : Project) :
    (s.addProject project).1.project (s.addProject project).2 = project := by
  rw [project_addProject]
  exact if_pos rfl

theorem project_addProject_of_lt (project : Project) {p : ProjectId}
    (hp : p.index < s.projects.length) : (s.addProject project).1.project p = s.project p := by
  rw [project_addProject, if_neg (Nat.ne_of_lt hp)]

@[simp] theorem project_newConfiguration (settings : Configuration) (p : ProjectId) :
    (s.newConfiguration settings).1.project p = s.project p := rfl

theorem attachment_newConfiguration (settings : Configuration) (c : ConfigurationId) :
    (s.newConfiguration settings).1.attachment c
      = if c.index = s.configurations.length then { settings } else s.attachment c :=
  getD_concat s.configurations { settings } default c.index

theorem project_modifyProject (p q : ProjectId) (f : Project → Project) :
    (s.modifyProject p f).project q
      = if q = p ∧ p.index < s.projects.length then f (s.project q) else s.project q := by
  have hindex : q.index = p.index ↔ q = p := by cases p; cases q; simp
  exact (getD_modify s.projects default f p.index q.index).trans (by simp only [hindex]; rfl)

@[simp] theorem attachment_modifyProject (p : ProjectId) (f : Project → Project)
    (c : ConfigurationId) : (s.modifyProject p f).attachment c = s.attachment c := rfl

@[simp] theorem project_modifyAttachment (c : ConfigurationId) (f : Attachment → Attachment)
    (p : ProjectId) : (s.modifyAttachment c f).project p = s.project p := rfl

theorem attachment_modifyAttachment (c d : ConfigurationId) (f : Attachment → Attachment) :
    (s.modifyAttachment c f).attachment d
      = if d = c ∧ c.index < s.configurations.length then f (s.attachment d)
        else s.attachment d := by
  have hindex : d.index = c.index ↔ d = c := by cases c; cases d; simp
  exact (getD_modify s.configurations default f c.index d.index).trans
    (by simp only [hindex]; rfl)

end

/-! ## Looking up -/

theorem name_of_findConfiguration {s : Store} {project : Project} {name : String}
    {c : ConfigurationId} (h : s.findConfiguration project name = some c) :
    (s.configuration c).name = name := by
  simpa using List.find?_some h

/-- A name that no other configuration of a project has leads to its configuration. -/
theorem findConfiguration_of_mem {s : Store} {project : Project}
    (hnodup : (project.configurations.map fun c => (s.configuration c).name).Nodup)
    {c : ConfigurationId} (hc : c ∈ project.configurations) :
    s.findConfiguration project (s.configuration c).name = some c := by
  have hsome : (s.findConfiguration project (s.configuration c).name).isSome :=
    List.find?_isSome.mpr ⟨c, hc, decide_eq_true rfl⟩
  obtain ⟨d, hd⟩ := Option.isSome_iff_exists.mp hsome
  rw [hd, List.inj_on_of_nodup_map hnodup (List.mem_of_find?_eq_some hd) hc
    (name_of_findConfiguration hd)]

theorem isConfigurationName_iff {name : String} :
    isConfigurationName name = true ↔
      name ≠ "" ∧ ∀ x ∈ name.toList, x.isAlphanum = true ∨ x = '_' := by
  simp [isConfigurationName, isNameChar]

/-! ## Attaching -/

/-- The store in which a project lists a configuration and the configuration knows it. -/
def attach (s : Store) (p : ProjectId) (c : ConfigurationId) : Store :=
  (s.modifyProject p fun project =>
      { project with configurations := project.configurations ++ [c] }).modifyAttachment c
    fun a => { a with owner := some p }

theorem addConfiguration_eq (s : Store) (p : ProjectId) (c : ConfigurationId) :
    s.addConfiguration p c
      = if ! isConfigurationName (s.configuration c).name then
          (s, some ⟨.invalidConfigurationName (s.configuration c).name,
            some ("project '" ++ (s.project p).name ++ "'")⟩)
        else if (s.findConfiguration (s.project p) (s.configuration c).name).isSome then
          (s, some ⟨.duplicateConfiguration (s.configuration c).name,
            some ("project '" ++ (s.project p).name ++ "'")⟩)
        else (s.attach p c, none) :=
  rfl

/-- A configuration is attached iff its name is fit for a guard and new within the project. -/
theorem addConfiguration_eq_none_iff {s s' : Store} {p : ProjectId} {c : ConfigurationId} :
    s.addConfiguration p c = (s', none) ↔
      isConfigurationName (s.configuration c).name = true ∧
      s.findConfiguration (s.project p) (s.configuration c).name = none ∧ s' = s.attach p c := by
  rw [addConfiguration_eq]
  cases isConfigurationName (s.configuration c).name with
  | false => simp
  | true =>
    cases s.findConfiguration (s.project p) (s.configuration c).name with
    | none => simp [eq_comm]
    | some d => simp

/-- A configuration that is refused is refused for its name, and nothing changes. -/
theorem addConfiguration_refused {s s' : Store} {p : ProjectId} {c : ConfigurationId}
    {d : Diagnosis} (h : s.addConfiguration p c = (s', some d)) :
    s' = s ∧ (isConfigurationName (s.configuration c).name = false ∨
      s.findConfiguration (s.project p) (s.configuration c).name ≠ none) := by
  rw [addConfiguration_eq] at h
  cases hname : isConfigurationName (s.configuration c).name with
  | false =>
    rw [hname] at h
    cases h
    exact ⟨rfl, .inl rfl⟩
  | true =>
    rw [hname] at h
    split at h
    · next hbad => cases hbad
    · split at h
      · next htaken =>
        cases h
        exact ⟨rfl, .inr (Option.isSome_iff_ne_none.mp htaken)⟩
      · cases h

theorem configuration_attach (s : Store) (p : ProjectId) (c d : ConfigurationId) :
    (s.attach p c).configuration d = s.configuration d := by
  unfold configuration attach
  rw [attachment_modifyAttachment, attachment_modifyProject]
  split <;> rfl

theorem configurations_attach (s : Store) (p q : ProjectId) (c : ConfigurationId) :
    ((s.attach p c).project q).configurations
      = if q = p ∧ p.index < s.projects.length then (s.project q).configurations ++ [c]
        else (s.project q).configurations := by
  rw [attach, project_modifyAttachment, project_modifyProject]
  split <;> rfl

/-- Only the configuration itself gets another owner. -/
theorem owner_attach {s : Store} {c : ConfigurationId} (hc : c.index < s.configurations.length)
    (p : ProjectId) (d : ConfigurationId) :
    ((s.attach p c).attachment d).owner = if d = c then some p else (s.attachment d).owner := by
  rw [attach, attachment_modifyAttachment, attachment_modifyProject]
  by_cases hd : d = c
  · rw [if_pos ⟨hd, hc⟩, if_pos hd]
  · rw [if_neg fun hboth => hd hboth.1, if_neg hd]

theorem configurations_addProject (s : Store) {project : Project}
    (hnone : project.configurations = []) (p : ProjectId) :
    ((s.addProject project).1.project p).configurations = [] ∨
      ((s.addProject project).1.project p).configurations = (s.project p).configurations := by
  rw [project_addProject]
  split
  · exact .inl hnone
  · exact .inr rfl

theorem configurations_addDependency (s : Store) (p on q : ProjectId) :
    ((s.addDependency p on).project q).configurations = (s.project q).configurations := by
  rw [addDependency, project_modifyProject]
  split <;> rfl

/-! ## The names within a project -/

/-- The names within every project are fit for a guard and all different. -/
structure WellNamed (s : Store) : Prop where
  named : ∀ p, ∀ c ∈ (s.project p).configurations,
    isConfigurationName (s.configuration c).name = true
  distinct : ∀ p, ((s.project p).configurations.map fun c => (s.configuration c).name).Nodup

namespace WellNamed

variable {s s' : Store}

theorem empty : Store.empty.WellNamed where
  named _ _ h := absurd h List.not_mem_nil
  distinct _ := List.nodup_nil

/-- What is listed is there: a configuration that is not has no name. -/
theorem lt_length (h : s.WellNamed) {p : ProjectId} {c : ConfigurationId}
    (hc : c ∈ (s.project p).configurations) : c.index < s.configurations.length := by
  by_contra hlt
  have hname := h.named p c hc
  rw [configuration, attachment, List.getD_eq_getElem?_getD,
    List.getElem?_eq_none (Nat.le_of_not_lt hlt)] at hname
  exact absurd hname (by decide)

/-- Nothing is lost as long as no list grows and no name changes. -/
theorem congr (h : s.WellNamed)
    (hlists : ∀ p, (s'.project p).configurations = [] ∨
      (s'.project p).configurations = (s.project p).configurations)
    (hnames : ∀ c : ConfigurationId, c.index < s.configurations.length →
      (s'.configuration c).name = (s.configuration c).name) : s'.WellNamed := by
  refine ⟨fun p c hc => ?_, fun p => ?_⟩
  · rcases hlists p with hp | hp <;> rw [hp] at hc
    · cases hc
    · rw [hnames c (h.lt_length hc)]
      exact h.named p c hc
  · rcases hlists p with hp | hp <;> rw [hp]
    · exact List.nodup_nil
    · have hsame : ((s.project p).configurations.map fun c => (s'.configuration c).name)
          = (s.project p).configurations.map fun c => (s.configuration c).name :=
        List.map_congr_left fun c hc => hnames c (h.lt_length hc)
      rw [hsame]
      exact h.distinct p

theorem addProject (h : s.WellNamed) {project : Project} (hnone : project.configurations = []) :
    (s.addProject project).1.WellNamed :=
  h.congr (configurations_addProject s hnone) fun _ _ => rfl

theorem newConfiguration (h : s.WellNamed) (settings : Configuration) :
    (s.newConfiguration settings).1.WellNamed := by
  refine h.congr (fun _ => .inr rfl) fun c hc => ?_
  rw [configuration, attachment_newConfiguration, if_neg (Nat.ne_of_lt hc)]
  rfl

theorem addDependency (h : s.WellNamed) (p on : ProjectId) : (s.addDependency p on).WellNamed :=
  h.congr (fun q => .inr (configurations_addDependency s p on q)) fun _ _ => rfl

/-- What is attached is fit and new, so a list that grows stays one without a repeated name. -/
theorem attach (h : s.WellNamed) {p : ProjectId} {c : ConfigurationId}
    (hname : isConfigurationName (s.configuration c).name = true)
    (hnew : s.findConfiguration (s.project p) (s.configuration c).name = none) :
    (s.attach p c).WellNamed := by
  refine ⟨fun q d hd => ?_, fun q => ?_⟩
  · rw [configuration_attach]
    rw [configurations_attach] at hd
    split at hd
    · rcases List.mem_append.mp hd with hd | hd
      · exact h.named q d hd
      · rw [List.mem_singleton.mp hd]
        exact hname
    · exact h.named q d hd
  · simp only [configuration_attach]
    rw [configurations_attach]
    split
    · next hq =>
      have hother : (s.configuration c).name
          ∉ (s.project q).configurations.map fun c => (s.configuration c).name := by
        intro hmem
        obtain ⟨d, hd, heq⟩ := List.mem_map.mp hmem
        rw [hq.1] at hd
        exact absurd heq (by simpa using List.find?_eq_none.mp hnew d hd)
      rw [List.map_append, List.map_singleton, ← List.concat_eq_append]
      exact (List.nodup_concat _ _).mpr ⟨hother, h.distinct q⟩
    · exact h.distinct q

end WellNamed

/-! ## Projects and configurations that know each other -/

/-- What holds of every store in which projects and configurations know each other. -/
structure Coherent (s : Store) : Prop where
  owned : ∀ p, ∀ c ∈ (s.project p).configurations, (s.attachment c).owner = some p
  named : ∀ p, ∀ c ∈ (s.project p).configurations,
    isConfigurationName (s.configuration c).name = true
  distinct : ∀ p, ((s.project p).configurations.map fun c => (s.configuration c).name).Nodup

namespace Coherent

variable {s : Store}

theorem wellNamed (h : s.Coherent) : s.WellNamed := ⟨h.named, h.distinct⟩

theorem of_wellNamed (h : s.WellNamed)
    (howned : ∀ p, ∀ c ∈ (s.project p).configurations, (s.attachment c).owner = some p) :
    s.Coherent :=
  ⟨howned, h.named, h.distinct⟩

theorem empty : Store.empty.Coherent :=
  of_wellNamed .empty fun _ _ h => absurd h List.not_mem_nil

/-- What is listed is there. -/
theorem lt_length (h : s.Coherent) {p : ProjectId} {c : ConfigurationId}
    (hc : c ∈ (s.project p).configurations) : c.index < s.configurations.length :=
  h.wellNamed.lt_length hc

theorem owner?_eq (h : s.Coherent) {p : ProjectId} {c : ConfigurationId}
    (hc : c ∈ (s.project p).configurations) : s.owner? c = some (s.project p) := by
  rw [owner?, h.owned p c hc]
  rfl

theorem addProject (h : s.Coherent) {project : Project} (hnone : project.configurations = []) :
    (s.addProject project).1.Coherent := by
  refine of_wellNamed (h.wellNamed.addProject hnone) fun p c hc => ?_
  rcases configurations_addProject s hnone p with hp | hp <;> rw [hp] at hc
  · cases hc
  · exact h.owned p c hc

/-- A new configuration is one that no project lists. -/
theorem newConfiguration (h : s.Coherent) (settings : Configuration) :
    (s.newConfiguration settings).1.Coherent := by
  refine of_wellNamed (h.wellNamed.newConfiguration settings) fun p c hc => ?_
  rw [attachment_newConfiguration, if_neg (Nat.ne_of_lt (h.lt_length hc))]
  exact h.owned p c hc

/-- Attaching keeps the books, if no project lists the configuration yet. -/
theorem attach (h : s.Coherent) {p : ProjectId} {c : ConfigurationId}
    (hc : c.index < s.configurations.length)
    (hfree : ∀ q, c ∉ (s.project q).configurations)
    (hname : isConfigurationName (s.configuration c).name = true)
    (hnew : s.findConfiguration (s.project p) (s.configuration c).name = none) :
    (s.attach p c).Coherent := by
  refine of_wellNamed (h.wellNamed.attach hname hnew) fun q d hd => ?_
  -- No project loses an owner, since none lists the configuration that gets one.
  have hkept (hd : d ∈ (s.project q).configurations) :
      ((s.attach p c).attachment d).owner = some q := by
    rw [owner_attach hc, if_neg fun heq : d = c => hfree q (heq ▸ hd)]
    exact h.owned q d hd
  rw [configurations_attach] at hd
  split at hd
  · next hq =>
    rcases List.mem_append.mp hd with hd | hd
    · exact hkept hd
    · rw [owner_attach hc, if_pos (List.mem_singleton.mp hd), hq.1]
  · exact hkept hd

theorem addDependency (h : s.Coherent) (p on : ProjectId) : (s.addDependency p on).Coherent := by
  refine of_wellNamed (h.wellNamed.addDependency p on) fun q c hc => ?_
  rw [configurations_addDependency] at hc
  exact h.owned q c hc

end Coherent

/-! ## A new configuration in a project -/

/-- The store with a new configuration that a project lists. -/
def withConfiguration (s : Store) (p : ProjectId) (settings : Configuration) : Store :=
  (s.newConfiguration settings).1.attach p ⟨s.configurations.length⟩

section

variable {s : Store}

theorem configuration_newConfiguration_self (s : Store) (settings : Configuration) :
    (s.newConfiguration settings).1.configuration ⟨s.configurations.length⟩ = settings := by
  rw [configuration, attachment_newConfiguration, if_pos rfl]

theorem configuration_newConfiguration_of_lt {c : ConfigurationId}
    (hc : c.index < s.configurations.length) (settings : Configuration) :
    (s.newConfiguration settings).1.configuration c = s.configuration c := by
  rw [configuration, attachment_newConfiguration, if_neg (Nat.ne_of_lt hc)]
  rfl

theorem findConfiguration_eq_none_iff {project : Project} {name : String} :
    s.findConfiguration project name = none ↔
      ∀ c ∈ project.configurations, (s.configuration c).name ≠ name := by
  simp [findConfiguration]

/-- Attaching asks for the names in the store as it was before the configuration was made. -/
theorem addConfiguration_newConfiguration_eq_none_iff (hs : s.WellNamed) {s' : Store}
    {p : ProjectId} {settings : Configuration} :
    (s.newConfiguration settings).1.addConfiguration p ⟨s.configurations.length⟩ = (s', none) ↔
      isConfigurationName settings.name = true ∧
      s.findConfiguration (s.project p) settings.name = none ∧
      s' = s.withConfiguration p settings := by
  have hfind : (s.newConfiguration settings).1.findConfiguration (s.project p) settings.name = none ↔
      s.findConfiguration (s.project p) settings.name = none := by
    rw [findConfiguration_eq_none_iff, findConfiguration_eq_none_iff]
    refine forall₂_congr fun c hc => ?_
    rw [configuration_newConfiguration_of_lt (hs.lt_length hc)]
  rw [addConfiguration_eq_none_iff, configuration_newConfiguration_self, project_newConfiguration,
    hfind, withConfiguration]

/-- The name of a new configuration is taken from then on, and no other is. -/
theorem findConfiguration_withConfiguration_eq_none_iff (hs : s.WellNamed) {p : ProjectId}
    (hp : p.index < s.projects.length) {settings : Configuration} {name : String} :
    (s.withConfiguration p settings).findConfiguration
        ((s.withConfiguration p settings).project p) name = none ↔
      s.findConfiguration (s.project p) name = none ∧ settings.name ≠ name := by
  have hlist : ((s.withConfiguration p settings).project p).configurations
      = (s.project p).configurations ++ [⟨s.configurations.length⟩] := by
    rw [withConfiguration, configurations_attach, if_pos ⟨rfl, hp⟩, project_newConfiguration]
  have hlast : (s.withConfiguration p settings).configuration ⟨s.configurations.length⟩
      = settings := by
    rw [withConfiguration, configuration_attach, configuration_newConfiguration_self]
  have hold : ∀ c ∈ (s.project p).configurations,
      (s.withConfiguration p settings).configuration c = s.configuration c := by
    intro c hc
    rw [withConfiguration, configuration_attach,
      configuration_newConfiguration_of_lt (hs.lt_length hc)]
  simp only [findConfiguration_eq_none_iff, hlist, List.forall_mem_append,
    List.forall_mem_singleton, hlast]
  exact and_congr_left' (forall₂_congr fun c hc => by rw [hold c hc])

theorem length_projects_withConfiguration (s : Store) (p : ProjectId) (settings : Configuration) :
    (s.withConfiguration p settings).projects.length = s.projects.length := by
  simp [withConfiguration, attach, modifyProject, modifyAttachment, newConfiguration]

theorem Coherent.withConfiguration (hs : s.Coherent) {p : ProjectId} {settings : Configuration}
    (hname : isConfigurationName settings.name = true)
    (hnew : s.findConfiguration (s.project p) settings.name = none) :
    (s.withConfiguration p settings).Coherent := by
  have hadd := (addConfiguration_newConfiguration_eq_none_iff hs.wellNamed).mpr ⟨hname, hnew, rfl⟩
  obtain ⟨hname', hnew', -⟩ := addConfiguration_eq_none_iff.mp hadd
  refine (hs.newConfiguration settings).attach ?_ (fun q hmem => ?_) hname' hnew'
  · show _ < (s.configurations ++ [_]).length
    rw [List.length_append]
    exact Nat.lt_succ_self _
  · -- The identifier is the first one that was not handed out.
    exact Nat.lt_irrefl _ (hs.lt_length hmem)

end

end Store

end CMakeGen
