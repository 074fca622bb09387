import CMakeGen.Proofs.Emission.Links
import CMakeGen.Proofs.Emission.Owned

/-!
# GCC and Clang

The two toolsets have one set of conventions but for the shared libraries of macOS, and a script
meets those in two places. A configuration of such a library has flags of its own; and whoever links
the library, for whatever system, links a file with another name, since the library says what it is
called. **Away from both a project is rendered alike under the two, to the same script or the same
error** (`renderProject_gcc_eq_clang`).

Where paths are read in the directory that the process works in, that is all there is to it: scripts
that come to their end are alike only away from both (`emit_gcc_eq_clang_iff`).
-/

namespace CMakeGen

namespace Toolset

/-- A project builds a shared library for macOS in a configuration with the given settings. -/
def ForMacos (project : Project) (settings : Configuration) : Prop :=
  project.kind = .sharedLibrary ∧ isMacos settings = true

instance (project : Project) (settings : Configuration) : Decidable (ForMacos project settings) :=
  inferInstanceAs (Decidable (_ ∧ _))

/-- The settings that say how the file of a dependency is called which a configuration links: those
of the dependency's configuration of the same name, or of its first one, or else the linking ones. -/
def linkedSettings (s : Store) (dependency : Project) (settings : Configuration) :
    Configuration :=
  (linkedConfiguration? s dependency settings.name).getD settings

/-- No shared library for macOS is built, and none is linked by an entry. -/
def OffMacos (s : Store) (project : Project) (settings : Configuration) : Prop :=
  ¬ ForMacos project settings ∧
    ∀ entry ∈ settings.links, ∀ d ∈ s.findDependency project entry,
      ¬ ForMacos (s.project d) (linkedSettings s (s.project d) settings)

instance (s : Store) (project : Project) (settings : Configuration) :
    Decidable (OffMacos s project settings) :=
  inferInstanceAs (Decidable (_ ∧ _))

/-! ## What the toolsets answer -/

section

variable {project : Project} {settings : Configuration}

theorem libraryName_eq_iff :
    gcc.libraryName project settings = clang.libraryName project settings ↔
      ¬ ForMacos project settings := by
  show unixLibraryName gccSuffix project settings = unixLibraryName clangSuffix project settings ↔ _
  unfold unixLibraryName gccSuffix clangSuffix ForMacos
  by_cases hshared : project.kind = .sharedLibrary
  · cases hmacos : isMacos settings with
    | false => simp [hshared]
    | true =>
      have hne : (".so" : String) ≠ ".dylib" := by decide
      simp [hshared, String.append_right_inj, hne]
  · simp [hshared]

theorem linkerFlags_eq_iff :
    gcc.linkerFlags (some project) settings = clang.linkerFlags (some project) settings ↔
      ¬ ForMacos project settings := by
  show unixFlags (gccSharedFlags gccSuffix) (some project) settings
    = unixFlags clangSharedFlags (some project) settings ↔ _
  unfold unixFlags ForMacos
  rw [List.append_cancel_left_eq]
  by_cases hshared : project.kind = .sharedLibrary
  · have hsuffix (h : isMacos settings = false) : gccSharedFlags gccSuffix project settings
        = gccSharedFlags clangSuffix project settings := by
      simp [gccSharedFlags, unixLibraryName, gccSuffix, clangSuffix, h]
    cases hmacos : isMacos settings with
    | false => simp [hshared, clangSharedFlags, hmacos, hsuffix hmacos]
    | true => simp [hshared, clangSharedFlags, gccSharedFlags, hmacos]
  · simp [hshared]

theorem length_linkerFlags (project : Project) (settings : Configuration) :
    (gcc.linkerFlags (some project) settings).length
      = (clang.linkerFlags (some project) settings).length := by
  have hshared : (gccSharedFlags gccSuffix project settings).length
      = (clangSharedFlags project settings).length := by
    unfold clangSharedFlags
    split <;> rfl
  show (unixFlags (gccSharedFlags gccSuffix) (some project) settings).length
    = (unixFlags clangSharedFlags (some project) settings).length
  simp only [unixFlags, List.length_append, apply_ite List.length, hshared]

end

section

variable {s : Store} {project : Project} {settings : Configuration} {entry : String}

theorem link_gcc_eq_clang
    (h : ∀ d ∈ s.findDependency project entry,
      ¬ ForMacos (s.project d) (linkedSettings s (s.project d) settings)) (cwd : Location) :
    gcc.link s cwd (some project) settings entry
      = clang.link s cwd (some project) settings entry := by
  unfold link
  dsimp only
  cases hfind : s.findDependency project entry with
  | none => rfl
  | some d =>
    have hname : gcc.libraryName (s.project d) (linkedSettings s (s.project d) settings)
        = clang.libraryName (s.project d) (linkedSettings s (s.project d) settings) :=
      libraryName_eq_iff.mpr (h d hfind)
    unfold linkedSettings at hname
    simp only [Option.map_some, siblingPath, libraryPath, hname]
    rfl

/-- Files with different names are at different places. -/
theorem locate_libraryPath_ne {dependency : Project}
    (h : ForMacos dependency (linkedSettings s dependency settings)) (cwd : Location) :
    (gcc.libraryPath s dependency settings).locate cwd
      ≠ (clang.libraryPath s dependency settings).locate cwd := by
  obtain ⟨hshared, hmacos⟩ := h
  have hplace (t : Toolset) (extension : String) {suffix : Configuration → String}
      (ht : t.libraryName = unixLibraryName suffix)
      (hsuffix : suffix (linkedSettings s dependency settings) = extension)
      (hextension : IsExtension extension) :
      ∃ above entry stem, (t.libraryPath s dependency settings).locate cwd = above ++ [entry] ∧
        entry.text.toList = stem ++ extension.toList := by
    obtain ⟨before, entry, stem, hsegments, htext⟩ :=
      Path.exists_segments_append hextension ("lib" ++ dependency.name)
    have hname : t.libraryName dependency (linkedSettings s dependency settings)
        = "lib" ++ dependency.name ++ extension := by
      rw [ht, unixLibraryName, if_pos hshared, hsuffix]
    rw [← hname] at hsegments
    obtain ⟨_, hjoin⟩ := Path.exists_segments_join hsegments
      (dependency.location.join (.ofString
        (((linkedConfiguration? s dependency settings.name).map (·.outputDir)).getD "")))
    obtain ⟨above, hlocate⟩ := Path.exists_locate_eq hjoin cwd
    exact ⟨above, entry, stem, hlocate, htext⟩
  obtain ⟨above, entry, stem, hgcc, htext⟩ :=
    hplace gcc ".so" rfl rfl (by decide)
  obtain ⟨above', entry', stem', hclang, htext'⟩ :=
    hplace clang ".dylib" rfl (by simp [clangSuffix, hmacos]) (by decide)
  intro heq
  rw [hgcc, hclang] at heq
  obtain ⟨-, hentry⟩ := List.append_inj' heq rfl
  rw [List.cons.injEq] at hentry
  rw [← hentry.1, htext] at htext'
  -- The names end in different letters.
  have hlast := congrArg List.getLast? htext'
  simp at hlast

end

end Toolset

/-! ## A configuration under one toolset -/

namespace Setting

/-- The same with one toolset for all configurations. -/
def withToolset (x : Setting) (identifier : String) : Setting :=
  { x with override := some identifier }

section

variable {x : Setting} {s : Store} {c : ConfigurationId} {project : Project}
  {settings : Configuration}

/-- With one toolset for all, there is only the standard to find out. -/
theorem settle_withToolset {identifier : String} {t : Toolset} (hne : identifier ≠ "")
    (hget : x.registry.get? identifier = some t) :
    (x.withToolset identifier).settle s project settings
      = ((Standard.ofLabel settings.dialect settings.pic).mapError fun problem =>
          RenderError.diagnosed ⟨problem, some (project.contextOf settings)⟩).map
        (x.amount s project settings t) := by
  unfold settle asked withToolset
  simp only [Registry.chosenToolset_of_override hne, Registry.get, hget]
  cases Standard.ofLabel settings.dialect settings.pic <;> rfl

/-- What a configuration resolves to hangs on the toolset in its links and its linker flags alone. -/
theorem resolve_two {identifier identifier' : String} {t t' : Toolset} (hne : identifier ≠ "")
    (hne' : identifier' ≠ "") (hget : x.registry.get? identifier = some t)
    (hget' : x.registry.get? identifier' = some t') (howner : s.owner? c = some project) :
    (∃ e, (x.withToolset identifier).resolve s c = .error e ∧
        (x.withToolset identifier').resolve s c = .error e) ∨
      ∃ standard,
        (x.withToolset identifier).resolve s c
            = .ok (x.amount s project (s.configuration c) t standard) ∧
          (x.withToolset identifier').resolve s c
            = .ok (x.amount s project (s.configuration c) t' standard) := by
  rw [resolve_of_owner howner, resolve_of_owner howner, settle_withToolset hne hget,
    settle_withToolset hne' hget']
  cases Standard.ofLabel (s.configuration c).dialect (s.configuration c).pic with
  | error problem => exact .inl ⟨_, rfl, rfl⟩
  | ok standard => exact .inr ⟨standard, rfl, rfl⟩

end

/-! ## Alike or not -/

section

variable {x : Setting} {s : Store} {project : Project} {settings : Configuration}
  {standard : Option Standard}

open Toolset

theorem report_amount_of_offMacos (h : OffMacos s project settings) (target : String) :
    (x.amount s project settings gcc standard).report target settings
      = (x.amount s project settings clang standard).report target settings := by
  have hlinks : (x.amount s project settings gcc standard).links
      = (x.amount s project settings clang standard).links := by
    refine List.map_congr_left fun entry hentry => ?_
    rw [link_gcc_eq_clang (h.2 entry hentry)]
  have hoptions : (x.amount s project settings gcc standard).linkOptions
      = (x.amount s project settings clang standard).linkOptions :=
    congrArg (settings.linkOptions ++ ·) (linkerFlags_eq_iff.mpr h.1)
  unfold Resolved.report Resolved.lists
  rw [hlinks, hoptions]
  rfl

/-- Where paths are read as the process reads them, every library for macOS makes a difference. -/
theorem offMacos_of_amount (hfs : x.fs.Local x.host.cwd)
    (hlinks : (x.amount s project settings gcc standard).links
      = (x.amount s project settings clang standard).links)
    (hoptions : (x.amount s project settings gcc standard).linkOptions
      = (x.amount s project settings clang standard).linkOptions) :
    OffMacos s project settings := by
  refine ⟨linkerFlags_eq_iff.mp (List.append_cancel_left hoptions), ?_⟩
  intro entry hentry d hd hmacos
  have hlibrary : (s.project d).kind.isLibrary = true := by
    rw [hmacos.1]
    rfl
  have htarget := List.map_inj_left.mp hlinks entry hentry
  have hlink (t : Toolset) : t.link s x.host.cwd (some project) settings entry
      = withSeparator ((t.libraryPath s (s.project d) settings).relativeTo project.location
          x.host.cwd).toString := by
    rw [libraryPath_eq]
    exact link_of_library (linkedFile?_of_findDependency hd hlibrary) x.host.cwd
  rw [hlink, hlink, resolveLink_withSeparator rfl, resolveLink_withSeparator rfl,
    FileSystem.absolute_join_relativeTo_eq hfs, FileSystem.absolute_join_relativeTo_eq hfs]
    at htarget
  apply locate_libraryPath_ne hmacos x.host.cwd
  exact Path.eq_of_toString_eq htarget

variable (hgcc : x.registry.get? "gcc" = some gcc) (hclang : x.registry.get? "clang" = some clang)

include hgcc hclang

/-- Away from macOS a project whose configurations are its own is emitted alike, as far as it gets. -/
theorem emit_gcc_eq_clang {p : ProjectId} (hs : s.Coherent)
    (hoff : ∀ c ∈ (s.project p).configurations, OffMacos s (s.project p) (s.configuration c)) :
    (x.withToolset "gcc").emit s p = (x.withToolset "clang").emit s p := by
  have hconfigurations : ∀ c ∈ (s.project p).configurations,
      (x.withToolset "gcc").emitConfiguration s (s.project p) c
        = (x.withToolset "clang").emitConfiguration s (s.project p) c := by
    intro c hc
    unfold emitConfiguration
    obtain ⟨e, he, he'⟩ | ⟨standard, hr, hr'⟩ :=
      resolve_two (by decide) (by decide) hgcc hclang (hs.owner?_eq hc)
    · rw [he, he']
    · rw [hr, hr']
      simp only [Except.map, Resolved.statements_eq_report,
        report_amount_of_offMacos (hoff c hc)]
  rw [emit_eq, emit_eq, emitConfigurations_congr_emit hconfigurations]

theorem offMacos_of_emitConfigurations (hfs : x.fs.Local x.host.cwd) {cs : List ConfigurationId}
    (howner : ∀ c ∈ cs, s.owner? c = some project)
    (hok : ((x.withToolset "gcc").emitConfigurations s project cs).failure = none)
    (heq : ((x.withToolset "gcc").emitConfigurations s project cs).statements
      = ((x.withToolset "clang").emitConfigurations s project cs).statements) :
    ∀ c ∈ cs, OffMacos s project (s.configuration c) := by
  induction cs with
  | nil =>
    intro c hc
    cases hc
  | cons c rest ih =>
    obtain ⟨hc, hrest⟩ := List.forall_mem_cons.mp howner
    obtain ⟨e, he, -⟩ | ⟨standard, hr, hr'⟩ :=
      resolve_two (by decide) (by decide) hgcc hclang hc
    · rw [emitConfigurations_of_error he] at hok
      cases hok
    · rw [emitConfigurations_of_ok hr] at hok heq
      rw [emitConfigurations_of_ok hr'] at heq
      have hflags : (x.amount s project (s.configuration c) gcc standard).linkOptions.length
          = (x.amount s project (s.configuration c) clang standard).linkOptions.length := by
        simp [amount, length_linkerFlags]
      obtain ⟨hlinks, hoptions, hbehind⟩ :=
        Resolved.report_append_inj heq (by simp [amount]) hflags rfl rfl
      refine List.forall_mem_cons.mpr ⟨offMacos_of_amount hfs hlinks hoptions, ?_⟩
      exact ih hrest hok hbehind

/-- **Where paths are read as the process reads them, whole scripts are alike only off macOS.** -/
theorem emit_gcc_eq_clang_iff {p : ProjectId} (hs : s.Coherent) (hfs : x.fs.Local x.host.cwd)
    (hok : ((x.withToolset "gcc").emit s p).failure = none) :
    (x.withToolset "gcc").emit s p = (x.withToolset "clang").emit s p ↔
      ∀ c ∈ (s.project p).configurations, OffMacos s (s.project p) (s.configuration c) := by
  constructor
  · intro heq
    have hstatements := congrArg Emission.statements heq
    rw [emit_eq] at hok
    rw [emit_eq, emit_eq] at hstatements
    exact offMacos_of_emitConfigurations hgcc hclang hfs (fun c hc => hs.owner?_eq hc) hok
      (List.append_cancel_left hstatements)
  · intro hoff
    exact emit_gcc_eq_clang hgcc hclang hs hoff

/-- **Off macOS a project of a document has the same script under both, or the same error.** -/
theorem renderProject_gcc_eq_clang {root : Path} {defaultName : String} {document : Value}
    {w : Workspace} (h : Workspace.ofValue root defaultName document = .ok w) {p : ProjectId}
    (hoff : ∀ c ∈ (w.store.project p).configurations,
      OffMacos w.store (w.store.project p) (w.store.configuration c)) :
    (x.withToolset "gcc").renderProject w.store p
      = (x.withToolset "clang").renderProject w.store p := by
  rw [renderProject, renderProject,
    emit_gcc_eq_clang hgcc hclang (Workspace.ofValue_coherent h) hoff]

end

end Setting

/-- A program for macOS that links a library built for something else, and a library for macOS. -/
def Sample.crossed : Value :=
  .table [("project", .list [
    .table [("name", .string "app"), ("dependencies", .list [.string "core"]),
      ("configuration", .list [.table [("name", .string "Debug"), ("system", .string "macosx"),
        ("links", .list [.string "core", .string "m"])]])],
    .table [("name", .string "core"), ("kind", .string "SharedLib"),
      ("configuration", .list [
        .table [("name", .string "Release"), ("system", .string "MacOSX")],
        .table [("name", .string "Debug"), ("system", .string "linux")]])]])]

/-- The program is the same under both toolsets, since it is no library and the one that it links is not
for macOS when it is linked; that one is not the same. -/
theorem Setting.renderProject_gcc_eq_clang_sample :
    ∃ w, Workspace.ofValue .here "workspace" Sample.crossed = .ok w ∧
      (Sample.setting.withToolset "gcc").renderProject w.store ⟨0⟩
        = (Sample.setting.withToolset "clang").renderProject w.store ⟨0⟩ ∧
      (Sample.setting.withToolset "gcc").emit w.store ⟨1⟩
        ≠ (Sample.setting.withToolset "clang").emit w.store ⟨1⟩ := by
  have hall : ((Workspace.ofValue .here "workspace" Sample.crossed).toOption.any fun w =>
      decide ((∀ c ∈ (w.store.project ⟨0⟩).configurations,
          Toolset.OffMacos w.store (w.store.project ⟨0⟩) (w.store.configuration c)) ∧
        (Sample.setting.withToolset "gcc").emit w.store ⟨1⟩
          ≠ (Sample.setting.withToolset "clang").emit w.store ⟨1⟩)) = true := by
    decide
  obtain ⟨w, hw, hoff, hne⟩ := exists_ok_of_any hall
  exact ⟨w, hw, renderProject_gcc_eq_clang rfl rfl hw hoff, hne⟩

end CMakeGen
