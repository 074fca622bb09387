import CMakeGen.Emission.Generation
import CMakeGen.Proofs.Path.Absolute
import CMakeGen.Proofs.Path.Ending

/-!
# Where the scripts stand

The file of a script is the output directory with the name of the project behind it, and a name is
any text. It may climb out of the directory or be an absolute path, so not much holds of all of them:
**the last step is always a name that ends in `.cmake`** (`exists_locate_projectFile`), and that is
enough to tell every script from the one that includes them.

A name that is a single part of a path is another matter. Its script stands in the directory itself,
under the name of the project, and different names have different scripts (`locate_projectFile`).
-/

namespace CMakeGen

/-! ## Any name -/

theorem isExtension_script : IsExtension ".cmake" := by decide

namespace Generation

variable (outputDir : Path) (cwd : Location)

theorem exists_locate_projectFile (project : Project) :
    ∃ above entry stem, (projectFile outputDir project).locate cwd = above ++ [entry] ∧
      entry.text.toList = stem ++ ".cmake".toList := by
  obtain ⟨before, entry, stem, hsegments, hstem⟩ :=
    Path.exists_segments_append isExtension_script project.name
  obtain ⟨before, hjoin⟩ := Path.exists_segments_join hsegments outputDir
  obtain ⟨above, habove⟩ := Path.exists_locate_eq hjoin cwd
  exact ⟨above, entry, stem, habove, hstem⟩

/-- The entry that the script with the others in it has in its directory. -/
def listName : FileName := ⟨"CMakeLists.txt", by decide⟩

theorem locate_workspaceFile :
    (workspaceFile outputDir).locate cwd = outputDir.locate cwd ++ [listName] :=
  Path.locate_join rfl outputDir cwd

/-- No script stands where the one that includes them does. -/
theorem locate_projectFile_ne (project : Project) :
    (projectFile outputDir project).locate cwd ≠ (workspaceFile outputDir).locate cwd := by
  obtain ⟨above, entry, stem, habove, hstem⟩ := exists_locate_projectFile outputDir cwd project
  rw [habove, locate_workspaceFile]
  intro heq
  obtain ⟨-, hentry⟩ := List.append_inj' heq rfl
  have hlast := congrArg List.getLast? hstem
  rw [List.singleton_inj.mp hentry] at hlast
  simp [listName] at hlast

/-! ## Names that are a single part -/

variable {outputDir cwd}

/-- The entry that the script of a project has in the output directory. -/
def scriptEntry (project : Project) (h : '/' ∉ project.name.toList) : FileName :=
  ⟨scriptName project, isExtension_script.isFileName_append h⟩

theorem locate_projectFile {project : Project} (h : '/' ∉ project.name.toList) :
    (projectFile outputDir project).locate cwd
      = outputDir.locate cwd ++ [scriptEntry project h] := by
  rw [projectFile, ← show (scriptEntry project h).text = scriptName project from rfl,
    Path.ofString_fileName, Path.locate_join rfl]
  rfl

/-- Other names may lead out of it. -/
example : (projectFile (.ofString "build") { name := "../a" }).locate []
    = [⟨"a.cmake", by decide⟩] := by
  decide

theorem name_eq_of_locate_eq {project other : Project} (h : '/' ∉ project.name.toList)
    (h' : '/' ∉ other.name.toList)
    (heq : (projectFile outputDir project).locate cwd = (projectFile outputDir other).locate cwd) :
    project.name = other.name := by
  rw [locate_projectFile h, locate_projectFile h'] at heq
  obtain ⟨-, hentry⟩ := List.append_inj' heq rfl
  have hnames : scriptName project = scriptName other :=
    congrArg FileName.text (List.singleton_inj.mp hentry)
  exact String.append_left_inj _ |>.mp hnames

end Generation

end CMakeGen
