import CMakeGen.Proofs.Emission.Links
import CMakeGen.Proofs.Script.Escape
import CMakeGen.Proofs.Workspace.WellFormed

/-!
# The name that a shared library records

A shared library holds the name by which programs ask for it at run time, and a linker flag of the
library says which one. Programs are linked with a file of the library, and what they find at run time
is what they were linked with only if the file is called by that name.

The flag is made from the configuration that builds the library, and the link from the configuration
that links it, which may be one for another system. **Both have the same name in the end**
(`resolveLinks_recordedName`): the link is named as the configuration that builds the library says
(`linkedFile_of_isLinked`), and whatever becomes of the path before it, the name at its end is kept
(`name_resolveLink`). Whether a link starts with one slash or two makes no difference here.
-/

namespace CMakeGen

/-! ## The flag -/

/-- The name that a linker flag has a shared library record. What is in `@rpath` is asked for where
the program says. -/
def recordedName? (flag : String) : Option String :=
  ((flag.toList.dropPrefix? "-Wl,-soname=".toList).or
    (flag.toList.dropPrefix? "-Wl,-install_name,@rpath/".toList)).map String.ofList

theorem recordedName?_soname (name : String) :
    recordedName? ("-Wl,-soname=" ++ name) = some name := by
  rw [recordedName?, String.toList_append, Script.dropPrefix?_append, Option.some_or,
    Option.map_some, String.ofList_toList]

theorem recordedName?_installName (name : String) :
    recordedName? ("-Wl,-install_name,@rpath/" ++ name) = some name := by
  have hother : ("-Wl,-install_name,@rpath/".toList ++ name.toList).dropPrefix?
      "-Wl,-soname=".toList = none := rfl
  rw [recordedName?, String.toList_append, hother, Script.dropPrefix?_append, Option.none_or,
    Option.map_some, String.ofList_toList]

namespace Toolset

theorem filterMap_recordedName?_archFlag {table : List (String × String)}
    (h : ∀ entry ∈ table, recordedName? entry.2 = none) (architecture : String) :
    (archFlag table architecture).filterMap recordedName? = [] := by
  rw [List.filterMap_eq_nil_iff]
  intro flag hflag
  rw [archFlag, Option.mem_toList] at hflag
  obtain ⟨before, after, rfl, -⟩ := List.lookup_eq_some_iff.mp hflag
  exact h (Text.lowercase architecture, flag) (by simp)

/-- Nothing is recorded but what a shared library is linked with. -/
theorem filterMap_recordedName?_unixFlags (shared : Project → Configuration → List String)
    {project : Project} (hshared : project.kind = .sharedLibrary) (settings : Configuration) :
    (unixFlags shared (some project) settings).filterMap recordedName?
      = (shared project settings).filterMap recordedName? := by
  have harch : (archFlag [("x86", "-m32"), ("x86_64", "-m64")] settings.architecture).filterMap
      recordedName? = [] := filterMap_recordedName?_archFlag (by decide) _
  have hstrip : (if settings.symbols = some false then ["-s"] else []).filterMap recordedName?
      = [] := by
    split <;> decide
  have hlto : (if settings.linkTimeOptimization = true then ["-flto"] else []).filterMap
      recordedName? = [] := by
    split <;> decide
  rw [unixFlags, List.filterMap_append, List.filterMap_append, List.filterMap_append, harch, hstrip,
    hlto]
  show (if project.kind = .sharedLibrary then shared project settings else []).filterMap _ = _
  rw [if_pos hshared]

theorem filterMap_recordedName?_gccSharedFlags (suffix : Configuration → String)
    (project : Project) (settings : Configuration) :
    (gccSharedFlags suffix project settings).filterMap recordedName?
      = [unixLibraryName suffix project settings] := by
  have hshared : recordedName? "-shared" = none := by decide
  rw [gccSharedFlags, List.filterMap_cons_none hshared,
    List.filterMap_cons_some (recordedName?_soname _), List.filterMap_nil]

theorem filterMap_recordedName?_clangSharedFlags (project : Project) (settings : Configuration) :
    (clangSharedFlags project settings).filterMap recordedName?
      = [unixLibraryName clangSuffix project settings] := by
  rw [clangSharedFlags]
  split
  · have hdynamic : recordedName? "-dynamiclib" = none := by decide
    rw [List.filterMap_cons_none hdynamic,
      List.filterMap_cons_some (recordedName?_installName _), List.filterMap_nil]
  · exact filterMap_recordedName?_gccSharedFlags _ project settings

variable {t : Toolset}

/-- **A shared library records one name, and it is that of its file.** -/
theorem filterMap_recordedName?_linkerFlags (ht : t = gcc ∨ t = clang) {project : Project}
    (hshared : project.kind = .sharedLibrary) (settings : Configuration) :
    (t.linkerFlags (some project) settings).filterMap recordedName?
      = [t.libraryName project settings] := by
  rcases ht with rfl | rfl
  · exact (filterMap_recordedName?_unixFlags _ hshared settings).trans
      (filterMap_recordedName?_gccSharedFlags _ project settings)
  · exact (filterMap_recordedName?_unixFlags _ hshared settings).trans
      (filterMap_recordedName?_clangSharedFlags project settings)

/-! ## The file -/

theorem isFileName_unixLibraryName {suffix : Configuration → String}
    (hsuffix : ∀ settings, IsExtension (suffix settings)) {project : Project}
    (hslash : '/' ∉ project.name.toList) (settings : Configuration) :
    IsFileName (unixLibraryName suffix project settings) := by
  have hstem : '/' ∉ ("lib" ++ project.name).toList := by
    rw [String.toList_append, List.mem_append, not_or]
    exact ⟨by decide, hslash⟩
  exact (isExtension_unixLibraryName hsuffix project settings).isFileName_append hstem

/-- A project whose name is a single part of a path has libraries whose names are. -/
theorem isFileName_libraryName (ht : t = gcc ∨ t = clang) {project : Project}
    (hslash : '/' ∉ project.name.toList) (settings : Configuration) :
    IsFileName (t.libraryName project settings) := by
  rcases ht with rfl | rfl
  · exact isFileName_unixLibraryName isExtension_gccSuffix hslash settings
  · exact isFileName_unixLibraryName isExtension_clangSuffix hslash settings

end Toolset

/-- The configuration of a dependency that is linked from a configuration of the given name: the one
of that name, or the first one if none has it. -/
def IsLinked (s : Store) (dependency : Project) (name : String) (e : ConfigurationId) : Prop :=
  (e ∈ dependency.configurations ∧ (s.configuration e).name = name) ∨
  ((∀ other ∈ dependency.configurations, (s.configuration other).name ≠ name) ∧
    dependency.configurations.head? = some e)

instance (s : Store) (dependency : Project) (name : String) (e : ConfigurationId) :
    Decidable (IsLinked s dependency name e) :=
  inferInstanceAs (Decidable (_ ∨ _))

section

variable {s : Store} {dependency : Project} {settings : Configuration} {e : ConfigurationId}

theorem IsLinked.mem {name : String} (h : IsLinked s dependency name e) :
    e ∈ dependency.configurations := by
  rcases h with ⟨hmem, -⟩ | ⟨-, hfirst⟩
  · exact hmem
  · exact List.mem_of_mem_head? hfirst

/-- It decides where the file is and what it is called. -/
theorem linkedFile_of_isLinked (t : Toolset)
    (hnodup : (dependency.configurations.map fun c => (s.configuration c).name).Nodup)
    (h : IsLinked s dependency settings.name e) :
    linkedFile t s dependency settings
      = (dependency.location.join (.ofString (s.configuration e).outputDir)).join
          (.ofString (t.libraryName dependency (s.configuration e))) := by
  rcases h with ⟨hmem, hname⟩ | ⟨hnone, hfirst⟩
  · exact linkedFile_of_mem t hnodup hmem hname.symm
  · obtain ⟨rest, hconfigurations⟩ := List.head?_eq_some_iff.mp hfirst
    rw [linkedFile, Store.findConfiguration_eq_none_iff.mpr hnone, hconfigurations]

/-- The file ends in the name that it has there, as one step. -/
theorem exists_segments_of_isLinked {t : Toolset} (ht : t = .gcc ∨ t = .clang)
    (hnodup : (dependency.configurations.map fun c => (s.configuration c).name).Nodup)
    (hslash : '/' ∉ dependency.name.toList) (h : IsLinked s dependency settings.name e) :
    ∃ before name, (linkedFile t s dependency settings).segments = before ++ [.name name] ∧
      name.text = t.libraryName dependency (s.configuration e) := by
  let name : FileName := ⟨_, Toolset.isFileName_libraryName ht hslash (s.configuration e)⟩
  have hname : (Path.ofString name.text).segments = [] ++ [.name name] :=
    congrArg Path.segments (Path.ofString_fileName name)
  obtain ⟨before, hsegments⟩ := Path.exists_segments_join hname
    (dependency.location.join (.ofString (s.configuration e).outputDir))
  refine ⟨before, name, ?_, rfl⟩
  rw [linkedFile_of_isLinked t hnodup h]
  exact hsegments

end

/-! ## The link -/

section

variable {t : Toolset} {fs : FileSystem} {cwd : Location} {s : Store} {project : Project}
  {settings : Configuration} {entry : String}

/-- A path between projects ends in the name of its file, whatever way it takes. -/
theorem name_resolveLink (hfs : fs.Local cwd) {file : Path}
    (hfile : t.linkedFile? s project settings entry = some file) {before : List Segment}
    {name : FileName} (hsegments : file.segments = before ++ [.name name]) :
    (Path.ofString (resolveLink fs cwd project.location
      (t.link s cwd (some project) settings entry))).name = name.text := by
  obtain ⟨above, hlocate⟩ := Path.exists_locate_eq hsegments cwd
  rw [Toolset.link_of_library hfile, resolveLink_withSeparator rfl,
    FileSystem.absolute_join_relativeTo_eq hfs, hlocate, Path.ofString_toString, Path.name]
  simp [Segment.toString]

/-- **What is linked for a shared library is called as the library says itself.** -/
theorem Workspace.resolveLinks_recordedName {root : Path} {defaultName : String} {document : Value}
    {w : Workspace} (h : Workspace.ofValue root defaultName document = .ok w) {p : ProjectId}
    (hp : p ∈ w.projects) {c : ConfigurationId} (hc : c ∈ (w.store.project p).configurations)
    (ht : t = .gcc ∨ t = .clang) (hfs : fs.Local cwd) {d : ProjectId}
    (hd : d ∈ (w.store.project p).dependencies)
    (hshared : (w.store.project d).kind = .sharedLibrary)
    (hslash : '/' ∉ (w.store.project d).name.toList) {e : ConfigurationId}
    (he : IsLinked w.store (w.store.project d) (w.store.configuration c).name e) :
    ∃ targets, resolveLinks fs cwd w.store c (t.links w.store cwd c) = .ok targets ∧
      List.Forall₂ (fun entry target => entry = (w.store.project d).name →
          (t.ldflags w.store e).filterMap recordedName? = [(Path.ofString target).name])
        (w.store.configuration c).links targets := by
  have hcoherent := Workspace.ofValue_coherent h
  have hflag : (t.ldflags w.store e).filterMap recordedName?
      = [t.libraryName (w.store.project d) (w.store.configuration e)] := by
    rw [Toolset.ldflags, hcoherent.owner?_eq he.mem]
    exact Toolset.filterMap_recordedName?_linkerFlags ht hshared _
  have hlibrary : (w.store.project d).kind.isLibrary = true := by
    rw [hshared]
    rfl
  have hfile : t.linkedFile? w.store (w.store.project p) (w.store.configuration c)
      (w.store.project d).name
        = some (linkedFile t w.store (w.store.project d) (w.store.configuration c)) :=
    Toolset.linkedFile?_of_findDependency (Workspace.findDependency_of_mem h hp hd) hlibrary
  obtain ⟨before, name, hsegments, hname⟩ :=
    exists_segments_of_isLinked ht (hcoherent.distinct d) hslash he
  refine ⟨(w.store.configuration c).links.map fun entry =>
    resolveLink fs cwd (w.store.project p).location
      (t.link w.store cwd (some (w.store.project p)) (w.store.configuration c) entry), ?_, ?_⟩
  · rw [resolveLinks, Toolset.links, hcoherent.owner?_eq hc]
    show Except.ok _ = _
    rw [List.map_map]
    rfl
  · rw [List.forall₂_map_right_iff, List.forall₂_same]
    rintro entry - rfl
    rw [hflag, name_resolveLink hfs hfile hsegments, hname]

end

/-- A program that links a shared library for another system, under a configuration of another
name. -/
def Sample.crossing : Value :=
  .table [("project", .list [
    .table [("name", .string "app"), ("location", .string "../app"),
      ("dependencies", .list [.string "core"]),
      ("configuration", .list [.table [("name", .string "Debug"), ("system", .string "linux"),
        ("links", .list [.string "m", .string "core"])]])],
    .table [("name", .string "core"), ("kind", .string "SharedLib"),
      ("location", .string "//up/core"),
      ("configuration", .list [.table [("name", .string "Release"), ("system", .string "MacOSX"),
        ("output_dir", .string "../bin")]])]])]

/-- The library is linked under the name that it has on its own system. -/
theorem Workspace.resolveLinks_recordedName_sample :
    ∃ w, Workspace.ofValue (.ofString "model") "workspace" Sample.crossing = .ok w ∧
      resolveLinks {} [⟨"w", by decide⟩] w.store ⟨0⟩
          (Toolset.clang.links w.store [⟨"w", by decide⟩] ⟨0⟩)
        = .ok ["m", "/up/bin/libcore.dylib"] ∧
      (Toolset.clang.ldflags w.store ⟨1⟩).filterMap recordedName? = ["libcore.dylib"] := by
  have hall : ((Workspace.ofValue (.ofString "model") "workspace" Sample.crossing).toOption.any
      fun w => decide (⟨0⟩ ∈ w.projects ∧ ⟨0⟩ ∈ (w.store.project ⟨0⟩).configurations ∧
        ⟨1⟩ ∈ (w.store.project ⟨0⟩).dependencies ∧
        (w.store.project ⟨1⟩).kind = .sharedLibrary ∧
        (w.store.project ⟨1⟩).name = "core" ∧
        IsLinked w.store (w.store.project ⟨1⟩) (w.store.configuration ⟨0⟩).name ⟨1⟩ ∧
        (w.store.configuration ⟨0⟩).links = ["m", "core"] ∧
        resolveLinks {} [⟨"w", by decide⟩] w.store ⟨0⟩
            (Toolset.clang.links w.store [⟨"w", by decide⟩] ⟨0⟩)
          = .ok ["m", "/up/bin/libcore.dylib"])) = true := by
    decide
  obtain ⟨w, h, hp, hc, hd, hshared, hname, he, hlinks, hresolved⟩ := exists_ok_of_any hall
  refine ⟨w, h, hresolved, ?_⟩
  have hslash : '/' ∉ (w.store.project ⟨1⟩).name.toList := by
    rw [hname]
    decide
  have hfs : FileSystem.Local {} [⟨"w", by decide⟩] := .inl rfl
  obtain ⟨targets, htargets, hboth⟩ :=
    Workspace.resolveLinks_recordedName h hp hc (.inr rfl) hfs hd hshared hslash he
  obtain rfl : ["m", "/up/bin/libcore.dylib"] = targets :=
    Except.ok.inj (hresolved.symm.trans htargets)
  rw [hlinks, hname] at hboth
  obtain _ | ⟨-, _ | ⟨hcore, -⟩⟩ := hboth
  exact (hcore rfl).trans (by decide)

end CMakeGen
