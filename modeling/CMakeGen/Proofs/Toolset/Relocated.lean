import CMakeGen.Proofs.Toolset.Siblings
import CMakeGen.Proofs.Workspace.Relocated

/-!
# Links in a tree that is moved

A project and the libraries that it links usually lie in one tree, and it should not matter where the
tree is. **A document that lies in `root` and is asked from `cwd` links what it would link if it lay where
`root` leads from there** (`links_relocate`), since a file and the project that links it are moved together.
So one thing is left to depend on: the directory that relative paths start from.

**The links are the same from everywhere iff every library that is linked climbs as far out of that
directory as the project that links it** (`links_congr_iff`). A tree that stays in its directory climbs
nowhere, so its links hang neither on the directory nor on who asks (`sameLinks_of_staysInside`).
-/

namespace CMakeGen

/-- A way from one directory to another does not depend on what both are read in. -/
theorem Path.relativeTo_join (root p b : Path) (cwd : Location) :
    (root.join p).relativeTo (root.join b) cwd = p.relativeTo b (root.locate cwd) := by
  rw [relativeTo, relativeTo, locate_join_eq, locate_join_eq]

/-- Libraries are not named after where projects are. -/
def Toolset.NamesAnywhere (t : Toolset) : Prop :=
  ∀ (root : Path) (project : Project) settings,
    t.libraryName (project.relocate root) settings = t.libraryName project settings

/-- The libraries that a configuration links climb as far as the project that it belongs to. -/
def LinksLevel (t : Toolset) (s : Store) (p : ProjectId) (c : ConfigurationId) : Prop :=
  ∀ entry ∈ (s.configuration c).links,
    ∀ file ∈ t.linkedFile? s (s.project p) (s.configuration c) entry,
      (s.project p).location.climb = file.climb

/-! ## A file that is moved -/

section

variable {t : Toolset} (ht : t.NamesAnywhere)

include ht

theorem linkedFile_relocate (s : Store) (root : Path) (dependency : Project)
    (settings : Configuration) :
    linkedFile t (s.relocate root) (dependency.relocate root) settings
      = root.join (linkedFile t s dependency settings) := by
  have hfile (directory : Path) (settings : Configuration) :
      ((root.join dependency.location).join directory).join
          (.ofString (t.libraryName (dependency.relocate root) settings))
        = root.join ((dependency.location.join directory).join
          (.ofString (t.libraryName dependency settings))) := by
    rw [ht]
    simp only [Path.join_assoc]
  have hfind : (s.relocate root).findConfiguration (dependency.relocate root) settings.name
      = s.findConfiguration dependency settings.name := rfl
  have hlist : (dependency.relocate root).configurations = dependency.configurations := rfl
  unfold linkedFile
  rw [hfind, hlist]
  cases s.findConfiguration dependency settings.name with
  | some c => exact hfile _ _
  | none => cases dependency.configurations <;> exact hfile _ _

/-- An entry names a library in the one tree iff it does in the other. -/
theorem Toolset.linkedFile?_relocate (s : Store) (root : Path) (project : Project)
    (settings : Configuration) (entry : String) :
    t.linkedFile? (s.relocate root) (project.relocate root) settings entry
      = (t.linkedFile? s project settings entry).map root.join := by
  have hfind : (s.relocate root).findDependency (project.relocate root) entry
      = s.findDependency project entry := by
    unfold Store.findDependency
    simp only [Store.name_project_relocate]
    rfl
  cases hd : s.findDependency project entry with
  | none =>
    rw [linkedFile?, linkedFile?, hfind, hd]
    rfl
  | some d =>
    rw [hd] at hfind
    by_cases hlibrary : (s.project d).kind.isLibrary = true
    · have hmoved : ((s.relocate root).project d).kind.isLibrary = true := by
        rw [Store.kind_relocate, hlibrary]
      rw [linkedFile?_of_findDependency hfind hmoved, linkedFile?_of_findDependency hd hlibrary,
        Store.project_relocate_of_isLibrary hlibrary, linkedFile_relocate ht, Option.map_some]
    · rw [linkedFile?, linkedFile?, hfind, hd]
      simp [Option.filter_some, hlibrary]

theorem Toolset.link_relocate (s : Store) (root : Path) (cwd : Location) (project : Project)
    (settings : Configuration) (entry : String) :
    t.link (s.relocate root) cwd (some (project.relocate root)) settings entry
      = t.link s (root.locate cwd) (some project) settings entry := by
  have hmoved := linkedFile?_relocate ht s root project settings entry
  cases hfile : t.linkedFile? s project settings entry with
  | none =>
    rw [hfile, Option.map_none] at hmoved
    rw [link_of_none hmoved, link_of_none hfile]
  | some file =>
    rw [hfile, Option.map_some] at hmoved
    rw [link_of_library hmoved, link_of_library hfile]
    show withSeparator ((root.join file).relativeTo (root.join project.location) cwd).toString = _
    rw [Path.relativeTo_join]

/-- **Where a tree lies counts as far as it decides where paths are read.** -/
theorem links_relocate {s : Store} (hs : s.Coherent) {p : ProjectId} {c : ConfigurationId}
    (hc : c ∈ (s.project p).configurations) (root : Path) (cwd : Location) :
    t.links (s.relocate root) cwd c = t.links s (root.locate cwd) c := by
  have howner : (s.relocate root).owner? c = some ((s.project p).relocate root) := by
    rw [← Store.project_relocate_of_mem hc]
    show (s.attachment c).owner.map (s.relocate root).project = _
    rw [hs.owned p c hc]
    rfl
  rw [Toolset.links, Toolset.links, howner, hs.owner?_eq hc]
  exact List.map_congr_left fun entry _ => Toolset.link_relocate ht s root cwd _ _ entry

end

/-! ## Links that are the same from everywhere -/

section

variable {t : Toolset} {s : Store} {p : ProjectId} {c : ConfigurationId}

theorem Toolset.links_eq (hs : s.Coherent) (hc : c ∈ (s.project p).configurations)
    (cwd : Location) :
    t.links s cwd c = (s.configuration c).links.map
      (t.link s cwd (some (s.project p)) (s.configuration c)) := by
  rw [links, hs.owner?_eq hc]

theorem LinksLevel.links_congr (h : LinksLevel t s p c) (hs : s.Coherent)
    (hc : c ∈ (s.project p).configurations) (cwd cwd' : Location) :
    t.links s cwd c = t.links s cwd' c := by
  rw [Toolset.links_eq hs hc, Toolset.links_eq hs hc]
  refine List.map_congr_left fun entry hentry => ?_
  cases hfile : t.linkedFile? s (s.project p) (s.configuration c) entry with
  | none => rw [Toolset.link_of_none hfile, Toolset.link_of_none hfile]
  | some file =>
    have hclimb := h entry hentry file hfile
    rw [Toolset.link_of_library hfile, Toolset.link_of_library hfile,
      Path.relativeTo_of_climb_eq hclimb, Path.relativeTo_of_climb_eq hclimb]

/-- **The links are the same from everywhere iff no library climbs farther than the project that links
it, nor the project farther than the library.** -/
theorem links_congr_iff (ht : t.NamesFiles) (hs : s.Coherent)
    (hc : c ∈ (s.project p).configurations) :
    (∀ cwd cwd', t.links s cwd c = t.links s cwd' c) ↔ LinksLevel t s p c := by
  constructor
  · intro hall entry hentry file hfile
    apply (Path.relativeTo_congr_iff (ht.names_ne_nil hfile)).mp
    intro cwd cwd'
    have hlinks := hall cwd cwd'
    rw [Toolset.links_eq hs hc, Toolset.links_eq hs hc] at hlinks
    have hlink := List.map_inj_left.mp hlinks entry hentry
    rw [Toolset.link_of_library hfile, Toolset.link_of_library hfile] at hlink
    -- What a link is written as says which way it is.
    rw [← Toolset.ofString_withSeparator (p := file.relativeTo (s.project p).location cwd) rfl,
      hlink, Toolset.ofString_withSeparator rfl]
  · intro h cwd cwd'
    exact h.links_congr hs hc cwd cwd'

/-- A library is never linked by what could be taken for its name. -/
theorem Toolset.slash_mem_link {file : Path} {project : Project} {settings : Configuration}
    {entry : String} (hfile : t.linkedFile? s project settings entry = some file) (cwd : Location) :
    '/' ∈ (t.link s cwd (some project) settings entry).toList := by
  rw [link_of_library hfile]
  exact slash_mem_withSeparator _

end

/-! ## A tree that stays in its directory -/

namespace Workspace

/-- All directories are relative, and no project and no library that is linked lies outside the directory
that they are read in. -/
structure StaysInside (w : Workspace) (t : Toolset) : Prop where
  location : ∀ p ∈ w.projects, (w.store.project p).location.root = .relative ∧
    .up ∉ (w.store.project p).location.normal.segments
  outputDir : ∀ p ∈ w.projects, ∀ c ∈ (w.store.project p).configurations,
    (Path.ofString (w.store.configuration c).outputDir).root = .relative
  name : ∀ p ∈ w.projects, (w.store.project p).name.toList.head? ≠ some '/'
  file : ∀ p ∈ w.projects, ∀ c ∈ (w.store.project p).configurations,
    ∀ entry ∈ (w.store.configuration c).links,
      ∀ file ∈ t.linkedFile? w.store (w.store.project p) (w.store.configuration c) entry,
        .up ∉ file.normal.segments

instance (w : Workspace) (t : Toolset) : Decidable (w.StaysInside t) :=
  decidable_of_iff (_ ∧ _ ∧ _ ∧ _)
    ⟨fun h => ⟨h.1, h.2.1, h.2.2.1, h.2.2.2⟩, fun h => ⟨h.location, h.outputDir, h.name, h.file⟩⟩

/-- Two readings of a document in which every configuration has the same links, and every library is
linked by a path. -/
structure SameLinks (t : Toolset) (cwd cwd' : Location) (w w' : Workspace) : Prop where
  projects : w'.projects = w.projects
  configurations : w'.store.configurations = w.store.configurations
  listed : ∀ p, (w'.store.project p).configurations = (w.store.project p).configurations
  links : ∀ p ∈ w.projects, ∀ c ∈ (w.store.project p).configurations,
    t.links w'.store cwd' c = t.links w.store cwd c
  separated : ∀ p ∈ w.projects, ∀ c ∈ (w.store.project p).configurations,
    List.Forall₂
      (fun entry link => ∀ d ∈ (w.store.project p).dependencies, (w.store.project d).name = entry →
        (w.store.project d).kind.isLibrary = true → '/' ∈ link.toList)
      (w.store.configuration c).links (t.links w.store cwd c)

variable {t : Toolset} {defaultName : String} {document : Value} {root : Path} {w : Workspace}

/-- What stays inside climbs nowhere. -/
theorem StaysInside.linksLevel (ht : t = .gcc ∨ t = .clang ∨ t = .msc)
    (hread : ofValue root defaultName document = .ok w) (h : w.StaysInside t) {p : ProjectId}
    (hp : p ∈ w.projects) {c : ConfigurationId} (hc : c ∈ (w.store.project p).configurations) :
    LinksLevel t w.store p c := by
  intro entry hentry file hfile
  have hlocation := h.location p hp
  have hup := h.file p hp c hc entry hentry file hfile
  obtain ⟨d, hd, -, rfl⟩ := Toolset.linkedFile?_eq_some_iff.mp hfile
  have hmem : d ∈ w.projects :=
    mem_projects_of_mem_dependencies hread hp (List.mem_of_find?_eq_some hd)
  have hroot := root_linkedFile ht (h.location d hmem).1 (h.outputDir d hmem) (h.name d hmem)
    (w.store.configuration c)
  rw [Path.climb_eq_zero_iff.mpr hlocation, Path.climb_eq_zero_iff.mpr ⟨hroot, hup⟩]

/-- An entry that names a library names a file. -/
theorem separated_links (hread : ofValue root defaultName document = .ok w) {p : ProjectId}
    (hp : p ∈ w.projects) {c : ConfigurationId} (hc : c ∈ (w.store.project p).configurations)
    (cwd : Location) :
    List.Forall₂
      (fun entry link => ∀ d ∈ (w.store.project p).dependencies, (w.store.project d).name = entry →
        (w.store.project d).kind.isLibrary = true → '/' ∈ link.toList)
      (w.store.configuration c).links (t.links w.store cwd c) := by
  rw [Toolset.links_eq (ofValue_coherent hread) hc, List.forall₂_map_right_iff, List.forall₂_same]
  intro entry _ d hd hname hlibrary
  have hfind := findDependency_of_mem hread hp hd
  rw [hname] at hfind
  exact Toolset.slash_mem_link (Toolset.linkedFile?_of_findDependency hfind hlibrary) cwd

/-- **Where a tree lies and where the process works leave no trace in the links.** A document that cannot
be read cannot be read anywhere, for the same reason. -/
theorem sameLinks_of_staysInside (ht : t = .gcc ∨ t = .clang ∨ t = .msc)
    (h : ∀ w, ofValue .here defaultName document = .ok w → w.StaysInside t)
    (root root' : Path) (cwd cwd' : Location) :
    Alike (SameLinks t cwd cwd') (ofValue root defaultName document)
      (ofValue root' defaultName document) := by
  have hanywhere : t.NamesAnywhere := by
    obtain rfl | rfl | rfl := ht <;> exact fun _ _ _ => rfl
  have hmoved := ofValue_relocated root .here defaultName document
  have hmoved' := ofValue_relocated root' .here defaultName document
  rw [Path.join_here] at hmoved hmoved'
  refine hmoved.both hmoved' fun w _ _ hread hreadRoot _ hw hw' => ?_
  subst hw hw'
  have hcoherent := ofValue_coherent hread
  -- Both trees link what the tree in between links, which is the same from everywhere.
  have hlinks {p : ProjectId} (hp : p ∈ w.projects) {c : ConfigurationId}
      (hc : c ∈ (w.store.project p).configurations) (root : Path) (cwd : Location) :
      t.links (w.store.relocate root) cwd c = t.links w.store [] c := by
    rw [links_relocate hanywhere hcoherent hc]
    exact ((h w hread).linksLevel ht hread hp hc).links_congr hcoherent hc _ _
  have hlisted (root : Path) (p : ProjectId) :
      ((w.relocate root).store.project p).configurations = (w.store.project p).configurations :=
    Store.configurations_relocate w.store root p
  constructor
  case projects => rfl
  case configurations => rfl
  case listed =>
    intro p
    rw [hlisted, hlisted]
  case links =>
    intro p hp c hc
    rw [hlisted] at hc
    exact (hlinks hp hc root' cwd').trans (hlinks hp hc root cwd).symm
  case separated =>
    intro p hp c hc
    exact separated_links hreadRoot hp hc cwd

end Workspace

/-- A program that links a library in another directory, one in its own, and one of the system. -/
def Sample.tree : Value :=
  .table [("project", .list [
    .table [("name", .string "app"), ("location", .string "src/../tools/app"),
      ("dependencies", .list [.string "core", .string "util"]),
      ("configuration", .list [.table [("name", .string "Debug"),
        ("links", .list [.string "core", .string "util", .string "m"])]])],
    .table [("name", .string "core"), ("kind", .string "SharedLib"), ("base_dir", .string "lib/core"),
      ("configuration", .list [.table [("name", .string "Release"),
        ("output_dir", .string "../bin")]])],
    .table [("name", .string "util"), ("kind", .string "StaticLib"),
      ("location", .string "tools/./app")]])]

/-- One tree at the top, asked from below, and one beside the directory that it is asked from. -/
theorem Workspace.sameLinks_of_staysInside_sample :
    ∃ w w', ofValue (.ofString "/srv/m") "workspace" Sample.tree = .ok w ∧
      ofValue (.ofString "../x") "workspace" Sample.tree = .ok w' ∧
      Toolset.gcc.links w.store [⟨"a", by decide⟩, ⟨"b", by decide⟩] ⟨0⟩
        = ["../../lib/bin/libcore.so", "./libutil.a", "m"] ∧
      Toolset.gcc.links w'.store [⟨"w", by decide⟩] ⟨0⟩
        = ["../../lib/bin/libcore.so", "./libutil.a", "m"] := by
  have hany : ((ofValue (.ofString "/srv/m") "workspace" Sample.tree).toOption.any fun w =>
      decide (⟨0⟩ ∈ w.projects ∧ ⟨0⟩ ∈ (w.store.project ⟨0⟩).configurations ∧
        Toolset.gcc.links w.store [⟨"a", by decide⟩, ⟨"b", by decide⟩] ⟨0⟩
          = ["../../lib/bin/libcore.so", "./libutil.a", "m"])) = true := by
    decide
  have hall : ((ofValue .here "workspace" Sample.tree).toOption.all fun w =>
      decide (w.StaysInside .gcc)) = true := by
    decide
  have hinside : ∀ w, ofValue .here "workspace" Sample.tree = .ok w → w.StaysInside .gcc := by
    intro w hw
    exact of_all_of_ok hall hw
  obtain ⟨w, hw, hp, hc, hlinks⟩ := exists_ok_of_any hany
  have hsame := Workspace.sameLinks_of_staysInside (.inl rfl) hinside (.ofString "/srv/m")
    (.ofString "../x") [⟨"a", by decide⟩, ⟨"b", by decide⟩] [⟨"w", by decide⟩]
  obtain ⟨err, herr, -⟩ | ⟨v, w', hvw, hv, hw'⟩ := hsame.tell
  · rw [hw] at herr
    cases herr
  · rw [hw] at hv
    cases hv
    exact ⟨w, w', hw, hw', hlinks, (hvw.links ⟨0⟩ hp ⟨0⟩ hc).trans hlinks⟩

end CMakeGen
