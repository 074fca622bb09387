import CMakeGen.Proofs.Model.Unnoticed
import CMakeGen.Proofs.Path.Absolute

/-!
# A model in another directory

`Store.relocate` has every directory of a store seen from another one: a directory that is relative is
then read in that one, and one that starts from the top stays where it is. Directories are not looked at
while a model is built, so **the change can be made before or after any other change to the store**
(`relocate_addProject`, `relocate_newConfiguration`, `unnoticed_relocate`).

A project that was never handed out has no directories that could be changed. It is no library and has
no configurations, so the projects that matter here are all there (`project_relocate_of_isLibrary`,
`project_relocate_of_mem`).
-/

namespace CMakeGen

/-- The same project with its directories read in `root`. -/
def Project.relocate (root : Path) (project : Project) : Project :=
  { project with
    baseDir := root.join project.baseDir
    location := root.join project.location }

namespace Store

/-- The same model with all directories read in `root`. -/
def relocate (s : Store) (root : Path) : Store :=
  { s with projects := s.projects.map (Project.relocate root) }

variable {s : Store} {root : Path} {p : ProjectId}

/-! ## What is asked for -/

theorem project_relocate_of_lt (hp : p.index < s.projects.length) :
    (s.relocate root).project p = (s.project p).relocate root := by
  unfold project relocate
  simp [List.getD_eq_getElem?_getD, hp]

theorem project_relocate_of_le (hp : s.projects.length ≤ p.index) :
    (s.relocate root).project p = s.project p := by
  unfold project relocate
  simp [List.getD_eq_getElem?_getD, hp]

theorem project_of_le (hp : s.projects.length ≤ p.index) : s.project p = default := by
  unfold project
  simp [List.getD_eq_getElem?_getD, hp]

/-- The project is the same but for its directories. -/
theorem project_relocate (s : Store) (root : Path) (p : ProjectId) :
    ∃ baseDir location, (s.relocate root).project p
      = { s.project p with baseDir := baseDir, location := location } := by
  rcases Nat.lt_or_ge p.index s.projects.length with hp | hp
  · exact ⟨_, _, project_relocate_of_lt hp⟩
  · exact ⟨_, _, project_relocate_of_le hp⟩

theorem project_relocate_of_ne (h : s.project p ≠ default) :
    (s.relocate root).project p = (s.project p).relocate root :=
  project_relocate_of_lt (Nat.lt_of_not_le fun hp => h (project_of_le hp))

theorem project_relocate_of_isLibrary (h : (s.project p).kind.isLibrary = true) :
    (s.relocate root).project p = (s.project p).relocate root := by
  apply project_relocate_of_ne
  intro hp
  rw [hp] at h
  cases h

theorem project_relocate_of_mem {c : ConfigurationId} (h : c ∈ (s.project p).configurations) :
    (s.relocate root).project p = (s.project p).relocate root := by
  apply project_relocate_of_ne
  intro hp
  rw [hp] at h
  cases h

@[simp] theorem name_project_relocate (s : Store) (root : Path) (p : ProjectId) :
    ((s.relocate root).project p).name = (s.project p).name := by
  obtain ⟨baseDir, location, h⟩ := project_relocate s root p
  rw [h]

@[simp] theorem configurations_relocate (s : Store) (root : Path) (p : ProjectId) :
    ((s.relocate root).project p).configurations = (s.project p).configurations := by
  obtain ⟨baseDir, location, h⟩ := project_relocate s root p
  rw [h]

@[simp] theorem kind_relocate (s : Store) (root : Path) (p : ProjectId) :
    ((s.relocate root).project p).kind = (s.project p).kind := by
  obtain ⟨baseDir, location, h⟩ := project_relocate s root p
  rw [h]

/-! ## What is changed -/

theorem relocate_addProject (s : Store) (root : Path) (project : Project) :
    (s.relocate root).addProject (project.relocate root)
      = ((s.addProject project).1.relocate root, (s.addProject project).2) := by
  unfold addProject relocate
  simp

theorem relocate_newConfiguration (s : Store) (root : Path) (settings : Configuration) :
    (s.relocate root).newConfiguration settings
      = ((s.newConfiguration settings).1.relocate root, (s.newConfiguration settings).2) := rfl

/-- A change to a project that has nothing to do with its directories. -/
theorem relocate_modifyProject (s : Store) (root : Path) (p : ProjectId) {f : Project → Project}
    (hf : ∀ project : Project, f (project.relocate root) = (f project).relocate root) :
    (s.relocate root).modifyProject p f = (s.modifyProject p f).relocate root := by
  unfold modifyProject relocate
  dsimp only
  rw [modify_map hf]

theorem relocate_attach (s : Store) (root : Path) (p : ProjectId) (c : ConfigurationId) :
    (s.relocate root).attach p c = (s.attach p c).relocate root := by
  unfold attach
  rw [relocate_modifyProject]
  · rfl
  · intro project
    rfl

theorem unnoticed_relocate (root : Path) : Unnoticed fun s => s.relocate root where
  configurationName _ _ := rfl
  projectName s p := name_project_relocate s root p
  configurations s p := configurations_relocate s root p
  attach s p c := relocate_attach s root p c
  addDependency s p _ := relocate_modifyProject s root p fun _ => rfl

end Store

end CMakeGen
