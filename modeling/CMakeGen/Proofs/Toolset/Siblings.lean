import CMakeGen.Proofs.Model.Store
import CMakeGen.Proofs.Path.Ending
import CMakeGen.Proofs.Path.Normal
import CMakeGen.Proofs.Toolset.Registry

/-!
# The file of a dependency

A configuration that links a library of the same workspace links a file, and **which file that is
depends on the dependency alone, up to a name** (`linkedFile`): the directory and the file name are
those of the dependency's configuration of the same name, or of its first one. Only a dependency
without any configuration is named as the linking configuration says.

The toolset writes the file as a relative path with a separator in it, so that it is not taken for the
name of a library. Reading the text gives the path back (`ofString_withSeparator`).
-/

namespace CMakeGen

/-- The file of a library dependency. It is in the directory of the configuration of the given
name, or else of the first one, or else where the dependency is. -/
def linkedFile (t : Toolset) (s : Store) (dependency : Project) (settings : Configuration) :
    Path :=
  let file (directory name : String) : Path :=
    (dependency.location.join (.ofString directory)).join (.ofString name)
  match s.findConfiguration dependency settings.name, dependency.configurations with
  | some c, _ | none, c :: _ =>
    file (s.configuration c).outputDir (t.libraryName dependency (s.configuration c))
  | none, [] => file "" (t.libraryName dependency settings)

theorem libraryPath_eq (t : Toolset) (s : Store) (dependency : Project)
    (settings : Configuration) :
    t.libraryPath s dependency settings = linkedFile t s dependency settings := by
  rw [Toolset.libraryPath, Toolset.linkedConfiguration?, linkedFile]
  cases s.findConfiguration dependency settings.name with
  | some c => rfl
  | none => cases dependency.configurations <;> rfl

/-- A configuration of the same name decides alone. -/
theorem linkedFile_of_mem (t : Toolset) {s : Store} {dependency : Project}
    (hnodup : (dependency.configurations.map fun c => (s.configuration c).name).Nodup)
    {c : ConfigurationId} (hc : c ∈ dependency.configurations) {settings : Configuration}
    (hname : settings.name = (s.configuration c).name) :
    linkedFile t s dependency settings
      = (dependency.location.join (.ofString (s.configuration c).outputDir)).join
          (.ofString (t.libraryName dependency (s.configuration c))) := by
  unfold linkedFile
  rw [hname, Store.findConfiguration_of_mem hnodup hc]

namespace Toolset

/-- The libraries of the Unix toolsets have names that start with three letters, so they are
relative whatever the project is called. -/
theorem root_unixLibraryName (suffix : Configuration → String) (project : Project)
    (settings : Configuration) :
    (Path.ofString (unixLibraryName suffix project settings)).root = .relative := by
  show Path.rootOf (("lib" ++ project.name) ++ _ : String).toList = _
  rw [String.toList_append, String.toList_append]
  rfl

variable {t : Toolset}

theorem root_libraryName (ht : t = gcc ∨ t = clang) (project : Project)
    (settings : Configuration) :
    (Path.ofString (t.libraryName project settings)).root = .relative := by
  rcases ht with rfl | rfl <;> exact root_unixLibraryName _ project settings

theorem systemLink_eq (ht : t = gcc ∨ t = clang) (entry : String) : t.systemLink entry = entry := by
  rcases ht with rfl | rfl <;> rfl

/-- A relative path can be read again from where it cannot be taken for a name. -/
theorem ofString_withSeparator {p : Path} (h : p.root = .relative) :
    Path.ofString (withSeparator p.toString) = p := by
  rw [withSeparator]
  split
  · exact p.ofString_toString
  · rw [Path.ofString_dotSlash, p.ofString_toString, ← h]

theorem slash_mem_withSeparator (text : String) : '/' ∈ (withSeparator text).toList := by
  rw [withSeparator]
  split
  · next h => exact List.contains_iff_mem.mp h
  · rw [String.toList_append]
    exact List.mem_append_left _ (by decide)

end Toolset

/-! ## Entries that name libraries -/

/-- The file that an entry stands for, if it names a library of the workspace. -/
def Toolset.linkedFile? (t : Toolset) (s : Store) (project : Project) (settings : Configuration)
    (entry : String) : Option Path :=
  (((s.findDependency project entry).map s.project).filter (·.kind.isLibrary)).map
    fun dependency => linkedFile t s dependency settings

section

variable {t : Toolset} {s : Store} {project : Project} {settings : Configuration} {entry : String}

theorem Toolset.linkedFile?_eq_some_iff {file : Path} :
    t.linkedFile? s project settings entry = some file ↔
      ∃ d, s.findDependency project entry = some d ∧ (s.project d).kind.isLibrary = true ∧
        file = linkedFile t s (s.project d) settings := by
  rw [linkedFile?, Option.map_eq_some_iff]
  constructor
  · intro h
    obtain ⟨dependency, hdependency, rfl⟩ := h
    obtain ⟨hfound, hlibrary⟩ := Option.filter_eq_some_iff.mp hdependency
    obtain ⟨d, hd, rfl⟩ := Option.map_eq_some_iff.mp hfound
    exact ⟨d, hd, hlibrary, rfl⟩
  · intro h
    obtain ⟨d, hd, hlibrary, rfl⟩ := h
    refine ⟨s.project d, Option.filter_eq_some_iff.mpr ⟨?_, hlibrary⟩, rfl⟩
    rw [hd, Option.map_some]

theorem Toolset.linkedFile?_of_findDependency {d : ProjectId}
    (hfind : s.findDependency project entry = some d)
    (hlibrary : (s.project d).kind.isLibrary = true) :
    t.linkedFile? s project settings entry = some (linkedFile t s (s.project d) settings) :=
  linkedFile?_eq_some_iff.mpr ⟨d, hfind, hlibrary, rfl⟩

theorem Toolset.link_of_library {file : Path}
    (hfile : t.linkedFile? s project settings entry = some file) (cwd : Location) :
    t.link s cwd (some project) settings entry
      = withSeparator (file.relativeTo project.location cwd).toString := by
  obtain ⟨d, hfound, hlibrary, rfl⟩ := linkedFile?_eq_some_iff.mp hfile
  rw [link, hfound]
  show (if (s.project d).kind.isLibrary = true then _ else _) = _
  rw [if_pos hlibrary, siblingPath, libraryPath_eq]

theorem Toolset.link_of_none (hfile : t.linkedFile? s project settings entry = none)
    (cwd : Location) : t.link s cwd (some project) settings entry = t.systemLink entry := by
  rw [linkedFile?, Option.map_eq_none_iff, Option.filter_eq_none_iff] at hfile
  rw [link]
  cases hfound : (s.findDependency project entry).map s.project with
  | none => rfl
  | some sibling =>
    show (if sibling.kind.isLibrary = true then _ else _) = _
    rw [if_neg (hfile sibling hfound)]

end

/-! ## Roots of files -/

/-- Whoever names the directory, it is joined between the location of the dependency and the name of
its library. -/
theorem exists_linkedFile_eq (t : Toolset) (s : Store) (dependency : Project)
    (settings : Configuration) :
    ∃ directory settings',
      (directory = "" ∨ ∃ c ∈ dependency.configurations, directory = (s.configuration c).outputDir) ∧
      linkedFile t s dependency settings
        = (dependency.location.join (.ofString directory)).join
            (.ofString (t.libraryName dependency settings')) := by
  unfold linkedFile
  cases hfind : s.findConfiguration dependency settings.name with
  | some c => exact ⟨_, _, .inr ⟨c, List.mem_of_find?_eq_some hfind, rfl⟩, rfl⟩
  | none =>
    cases dependency.configurations with
    | nil => exact ⟨"", settings, .inl rfl, rfl⟩
    | cons c rest => exact ⟨_, _, .inr ⟨c, List.mem_cons_self, rfl⟩, rfl⟩

theorem root_linkedFile_ne_double {t : Toolset} (ht : t = .gcc ∨ t = .clang) {s : Store}
    {dependency : Project} (hlocation : dependency.location.root ≠ .double)
    (hdirectory : ∀ c ∈ dependency.configurations,
      (Path.ofString (s.configuration c).outputDir).root ≠ .double)
    (settings : Configuration) :
    (linkedFile t s dependency settings).root ≠ .double := by
  obtain ⟨directory, settings', hfrom, hfile⟩ := exists_linkedFile_eq t s dependency settings
  have hnot : (Path.ofString directory).root ≠ .double := by
    rcases hfrom with rfl | ⟨c, hc, rfl⟩
    · decide
    · exact hdirectory c hc
  rw [hfile]
  refine Path.root_join_ne_double (Path.root_join_ne_double hlocation hnot) ?_
  rw [Toolset.root_libraryName ht]
  decide

/-- A library is named relative to where it is, unless the project itself is called after the top of the
tree. -/
theorem Toolset.root_libraryName_of_name {t : Toolset} (ht : t = gcc ∨ t = clang ∨ t = msc)
    {project : Project} (hname : project.name.toList.head? ≠ some '/') (settings : Configuration) :
    (Path.ofString (t.libraryName project settings)).root = .relative := by
  obtain rfl | rfl | rfl := ht
  · exact root_unixLibraryName _ project settings
  · exact root_unixLibraryName _ project settings
  · have hhead : (project.name ++ ".lib").toList.head? ≠ some '/' := by
      rw [String.toList_append]
      cases hlist : project.name.toList with
      | nil => decide
      | cons first rest =>
        rw [hlist] at hname
        exact hname
    exact Path.rootOf_append hhead .relative

/-- Where every directory is relative, so is the file. -/
theorem root_linkedFile {t : Toolset} (ht : t = .gcc ∨ t = .clang ∨ t = .msc) {s : Store}
    {dependency : Project} (hlocation : dependency.location.root = .relative)
    (hdirectory : ∀ c ∈ dependency.configurations,
      (Path.ofString (s.configuration c).outputDir).root = .relative)
    (hname : dependency.name.toList.head? ≠ some '/') (settings : Configuration) :
    (linkedFile t s dependency settings).root = .relative := by
  obtain ⟨directory, settings', hfrom, hfile⟩ := exists_linkedFile_eq t s dependency settings
  have hrelative : (Path.ofString directory).root = .relative := by
    rcases hfrom with rfl | ⟨c, hc, rfl⟩
    · decide
    · exact hdirectory c hc
  rw [hfile, Path.root_join_relative (Toolset.root_libraryName_of_name ht hname settings'),
    Path.root_join_relative hrelative, hlocation]

/-! ## Files have names -/

/-- Every library is named with an extension. -/
def Toolset.NamesFiles (t : Toolset) : Prop :=
  ∀ project settings, ∃ stem extension, IsExtension extension ∧
    t.libraryName project settings = stem ++ extension

namespace Toolset

theorem isExtension_gccSuffix (settings : Configuration) : IsExtension (gccSuffix settings) :=
  show IsExtension ".so" by decide

theorem isExtension_clangSuffix (settings : Configuration) : IsExtension (clangSuffix settings) := by
  rw [clangSuffix]
  split <;> decide

theorem isExtension_unixLibraryName {suffix : Configuration → String}
    (h : ∀ settings, IsExtension (suffix settings)) (project : Project)
    (settings : Configuration) :
    IsExtension (if project.kind = .sharedLibrary then suffix settings else ".a") := by
  split
  · exact h settings
  · decide

theorem namesFiles_of_unix {t : Toolset} {suffix : Configuration → String}
    (h : t.libraryName = unixLibraryName suffix)
    (hsuffix : ∀ settings, IsExtension (suffix settings)) : t.NamesFiles := by
  intro project settings
  exact ⟨"lib" ++ project.name, _, isExtension_unixLibraryName hsuffix project settings,
    by rw [h, unixLibraryName]⟩

theorem namesFiles_gcc : gcc.NamesFiles := namesFiles_of_unix rfl isExtension_gccSuffix

theorem namesFiles_clang : clang.NamesFiles := namesFiles_of_unix rfl isExtension_clangSuffix

theorem namesFiles_msc : msc.NamesFiles :=
  fun project _ => ⟨project.name, ".lib", by decide, rfl⟩

theorem namesFiles_of_standard {identifier : String} {t : Toolset}
    (h : Registry.standard.get? identifier = some t) : t.NamesFiles := by
  rcases Registry.eq_of_standard h with rfl | rfl | rfl
  · exact namesFiles_gcc
  · exact namesFiles_clang
  · exact namesFiles_msc

/-- Whatever the projects and directories are called, the file of a dependency is a name. -/
theorem NamesFiles.exists_segments_linkedFile {t : Toolset} (ht : t.NamesFiles) (s : Store)
    (dependency : Project) (settings : Configuration) :
    ∃ before entry, (linkedFile t s dependency settings).segments = before ++ [.name entry] := by
  obtain ⟨directory, settings', -, hfile⟩ := exists_linkedFile_eq t s dependency settings
  obtain ⟨stem, extension, hextension, hname⟩ := ht dependency settings'
  obtain ⟨before, entry, -, hsegments, -⟩ := Path.exists_segments_append hextension stem
  rw [← hname] at hsegments
  obtain ⟨before, hjoin⟩ := Path.exists_segments_join hsegments
    (dependency.location.join (.ofString directory))
  rw [hfile]
  exact ⟨before, entry, hjoin⟩

/-- So it is somewhere below the place that its path climbs to. -/
theorem NamesFiles.names_ne_nil {t : Toolset} (ht : t.NamesFiles) {s : Store} {project : Project}
    {settings : Configuration} {entry : String} {file : Path}
    (hfile : t.linkedFile? s project settings entry = some file) : file.names ≠ [] := by
  obtain ⟨d, -, -, rfl⟩ := linkedFile?_eq_some_iff.mp hfile
  obtain ⟨before, last, hlast⟩ := ht.exists_segments_linkedFile s (s.project d) settings
  exact Path.names_ne_nil hlast

end Toolset

end CMakeGen
