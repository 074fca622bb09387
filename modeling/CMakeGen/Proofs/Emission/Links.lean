import CMakeGen.Emission.Settings
import CMakeGen.Proofs.Toolset.Siblings
import CMakeGen.Proofs.Workspace.Coherence

/-!
# What a link entry becomes

A link entry is looked at twice. The toolset turns the name of a library dependency into a relative
path, and the script turns every path into an absolute one. **Together they give the absolute path of
the file that the dependency builds** (`resolveLinks_links`), as if nobody had ever gone relative:
`linkTarget` says so without any relative path in it.
-/

namespace CMakeGen

/-- What an entry of a configuration of `project` stands for. -/
def linkTarget (t : Toolset) (cwd : Location) (s : Store) (project : Project)
    (settings : Configuration) (entry : String) : String :=
  match ((s.findDependency project entry).map s.project).filter (·.kind.isLibrary) with
  | some dependency => ((linkedFile t s dependency settings).absoluteFrom cwd).toString
  | none =>
    if '/' ∈ entry.toList ∨ '\\' ∈ entry.toList then
      ((project.location.join (.ofString entry)).absoluteFrom cwd).toString
    else entry

theorem isPathReference_iff {entry : String} :
    isPathReference entry = true ↔ '/' ∈ entry.toList ∨ '\\' ∈ entry.toList := by
  simp only [isPathReference, List.any_eq_true, Bool.or_eq_true, decide_eq_true_eq]
  constructor
  · rintro ⟨c, hc, rfl | rfl⟩
    · exact .inl hc
    · exact .inr hc
  · rintro (h | h)
    · exact ⟨_, h, .inl rfl⟩
    · exact ⟨_, h, .inr rfl⟩

section

variable {t : Toolset} {fs : FileSystem} {cwd : Location} {s : Store}

/-- A relative path with a separator in it is read where the project is. -/
theorem resolveLink_withSeparator {p : Path} (h : p.root = .relative) (location : Path) :
    resolveLink fs cwd location (Toolset.withSeparator p.toString)
      = (fs.absolute cwd (location.join p)).toString := by
  rw [resolveLink, if_pos (isPathReference_iff.mpr (.inl (Toolset.slash_mem_withSeparator _))),
    Toolset.ofString_withSeparator h]

/-- A path between projects is absolute in the end, and the way it took does not matter. -/
theorem resolveLink_siblingPath (hfs : fs.Local cwd) {project dependency : Project}
    {settings : Configuration} (hlocation : project.location.root ≠ .double)
    (hfile : (linkedFile t s dependency settings).root ≠ .double) :
    resolveLink fs cwd project.location (t.siblingPath s cwd project dependency settings)
      = ((linkedFile t s dependency settings).absoluteFrom cwd).toString := by
  rw [Toolset.siblingPath, resolveLink_withSeparator rfl, libraryPath_eq,
    FileSystem.absolute_join_relativeTo hfs hfile hlocation]

/-- Where no library is meant, only the text of the entry counts. -/
theorem resolveLink_eq (hfs : fs.Local cwd) (location : Path) (entry : String) :
    resolveLink fs cwd location entry
      = if '/' ∈ entry.toList ∨ '\\' ∈ entry.toList then
          ((location.join (.ofString entry)).absoluteFrom cwd).toString
        else entry := by
  rw [resolveLink, FileSystem.absolute_eq hfs]
  exact ite_congr (propext isPathReference_iff) (fun _ => rfl) fun _ => rfl

/-- One entry, with the toolset and the script taken together. -/
theorem resolveLink_link (ht : t = .gcc ∨ t = .clang) (hfs : fs.Local cwd) {project : Project}
    (hlocation : project.location.root ≠ .double)
    (hdependencies : ∀ d ∈ project.dependencies, (s.project d).location.root ≠ .double ∧
      ∀ c ∈ (s.project d).configurations,
        (Path.ofString (s.configuration c).outputDir).root ≠ .double)
    (settings : Configuration) (entry : String) :
    resolveLink fs cwd project.location (t.link s cwd (some project) settings entry)
      = linkTarget t cwd s project settings entry := by
  rw [Toolset.link, linkTarget]
  cases hfind : s.findDependency project entry with
  | none =>
    show resolveLink fs cwd project.location (t.systemLink entry) = _
    rw [Toolset.systemLink_eq ht, resolveLink_eq hfs]
    rfl
  | some d =>
    obtain ⟨hd, hdirectory⟩ := hdependencies d (List.mem_of_find?_eq_some hfind)
    by_cases hlibrary : (s.project d).kind.isLibrary = true
    · have hfile := root_linkedFile_ne_double ht hd hdirectory settings
      simp only [Option.map_some, Option.filter_some, hlibrary, if_true]
      exact resolveLink_siblingPath hfs hlocation hfile
    · simp only [Option.map_some, Option.filter_some, hlibrary, Bool.false_eq_true, if_false]
      rw [Toolset.systemLink_eq ht, resolveLink_eq hfs]

/-- **Every entry of a configuration becomes what it stands for, in order.** -/
theorem Workspace.resolveLinks_links {root : Path} {defaultName : String} {document : Value}
    {w : Workspace} (h : Workspace.ofValue root defaultName document = .ok w) {p : ProjectId}
    {c : ConfigurationId} (hc : c ∈ (w.store.project p).configurations)
    (ht : t = .gcc ∨ t = .clang) (hfs : fs.Local cwd)
    (hlocation : (w.store.project p).location.root ≠ .double)
    (hdependencies : ∀ d ∈ (w.store.project p).dependencies,
      (w.store.project d).location.root ≠ .double ∧
      ∀ e ∈ (w.store.project d).configurations,
        (Path.ofString (w.store.configuration e).outputDir).root ≠ .double) :
    resolveLinks fs cwd w.store c (t.links w.store cwd c)
      = .ok ((w.store.configuration c).links.map
          (linkTarget t cwd w.store (w.store.project p) (w.store.configuration c))) := by
  have howner := (Workspace.ofValue_coherent h).owner?_eq hc
  rw [resolveLinks, Toolset.links, howner]
  show Except.ok _ = _
  rw [List.map_map]
  exact congrArg _ (List.map_congr_left fun entry _ =>
    resolveLink_link ht hfs hlocation hdependencies _ entry)

/-- Two projects, one of which is linked by the other and lies above the top of the tree. -/
def Sample.document : Value :=
  .table [("project", .list [
    .table [("name", .string "app"), ("location", .string "../app/./x/.."),
      ("dependencies", .list [.string "core"]),
      ("configuration", .list [.table [("name", .string "Debug"),
        ("links", .list [.string "core", .string "../lib/y.a", .string "m"])]])],
    .table [("name", .string "core"), ("kind", .string "SharedLib"),
      ("location", .string "../../../../up/core"),
      ("configuration", .list [.table [("name", .string "Release"),
        ("output_dir", .string "../bin")]])]])]

/-- A library, a path and a name, each as a script says it. -/
theorem Workspace.resolveLinks_links_sample :
    ∃ w, Workspace.ofValue (.ofString "model") "workspace" Sample.document = .ok w ∧
      resolveLinks {} [⟨"w", by decide⟩] w.store ⟨0⟩
          (Toolset.gcc.links w.store [⟨"w", by decide⟩] ⟨0⟩)
        = .ok ["/up/bin/libcore.so", "/w/lib/y.a", "m"] := by
  have hall : ((Workspace.ofValue (.ofString "model") "workspace" Sample.document).toOption.any
      fun w => decide (⟨0⟩ ∈ (w.store.project ⟨0⟩).configurations ∧
        (w.store.project ⟨0⟩).location.root ≠ .double ∧
        (∀ d ∈ (w.store.project ⟨0⟩).dependencies, (w.store.project d).location.root ≠ .double ∧
          ∀ e ∈ (w.store.project d).configurations,
            (Path.ofString (w.store.configuration e).outputDir).root ≠ .double) ∧
        (w.store.configuration ⟨0⟩).links.map (linkTarget .gcc [⟨"w", by decide⟩] w.store
          (w.store.project ⟨0⟩) (w.store.configuration ⟨0⟩))
          = ["/up/bin/libcore.so", "/w/lib/y.a", "m"])) = true := by
    decide
  obtain ⟨w, h, hc, hlocation, hdependencies, hlinks⟩ := exists_ok_of_any hall
  refine ⟨w, h, ?_⟩
  rw [Workspace.resolveLinks_links h hc (.inl rfl) (.inl rfl) hlocation hdependencies, hlinks]

end

end CMakeGen
