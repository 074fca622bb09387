import CMakeGen.Proofs.Emission.Links
import CMakeGen.Proofs.Emission.Renderable
import CMakeGen.Proofs.Path.Normal
import CMakeGen.Proofs.Path.Rooted

/-!
# Where the process works

A file system with a directory of its own reads every path there, so it should not matter where the
process works. All that a configuration resolves to bears this out except its links
(`resolve_runIn`): a toolset finds the way to a library of the workspace without asking the file
system, and the way is then followed from the directory that the file system reads it in.

So a script is the same in two working directories **iff the ways to all libraries lead to the same
files from both** (`emit_runIn_iff`), and it is the same in all of them **iff no project climbs
farther than the file that it links, nor the file farther than the project** (`emit_fromAnywhere`).
-/

namespace CMakeGen

theorem Disk.isFile_absolute {p : Path} (h : p.root ≠ .relative) (d : Disk) (cwd cwd' : Location) :
    d.isFile cwd p = d.isFile cwd' p := by
  have haccess : d.access cwd p = d.access cwd' p := by
    rw [access, access, find, find, Path.steps_absolute h cwd cwd']
  rw [isFile, isFile, ask, ask, haccess]

/-! ## A file system with a directory of its own -/

namespace FileSystem

/-- Relative paths are read in `home`, wherever the process works. -/
def Anchored (fs : FileSystem) (home : Path) : Prop :=
  fs.directory = some home ∧ home.root ≠ .relative

variable {fs : FileSystem} {home : Path} (h : fs.Anchored home)

include h

theorem Anchored.rooted : fs.Rooted := by
  intro directory hdirectory
  rw [h.1] at hdirectory
  cases hdirectory
  exact h.2

theorem Anchored.absolute_eq (cwd : Location) (p : Path) :
    fs.absolute cwd p = ⟨(home.join p).root, (p.locate (home.locate [])).map .name⟩ := by
  rw [h.rooted.absolute_eq, FileSystem.home, current, h.1]
  rfl

theorem Anchored.root_absolute (cwd : Location) (p : Path) :
    (fs.absolute cwd p).root ≠ .relative :=
  h.rooted.root_absolute cwd p

theorem Anchored.absolute_congr (cwd cwd' : Location) (p : Path) :
    fs.absolute cwd p = fs.absolute cwd' p := by
  rw [h.absolute_eq, h.absolute_eq]

theorem Anchored.relative_congr (cwd cwd' : Location) (p base : Path) :
    fs.relative cwd p base = fs.relative cwd' p base := by
  rw [relative, relative, h.absolute_congr cwd cwd' p, h.absolute_congr cwd cwd' base,
    Path.relativeTo, Path.relativeTo, Path.locate_absolute (h.root_absolute cwd' p) cwd cwd',
    Path.locate_absolute (h.root_absolute cwd' base) cwd cwd']

theorem Anchored.probe_congr (disk : Disk) (cwd cwd' : Location) (p : Path) :
    fs.probe ⟨disk, cwd⟩ p = fs.probe ⟨disk, cwd'⟩ p := by
  rw [probe, probe]
  dsimp only
  rw [h.absolute_congr cwd cwd' p, Disk.isFile_absolute (h.root_absolute cwd' p) disk cwd cwd']

theorem Anchored.searchHeader_congr (disk : Disk) (cwd cwd' : Location) (s : Store)
    (c : ConfigurationId) : searchHeader fs ⟨disk, cwd⟩ s c = searchHeader fs ⟨disk, cwd'⟩ s c := by
  have hprobe : fs.probe ⟨disk, cwd⟩ = fs.probe ⟨disk, cwd'⟩ :=
    funext (h.probe_congr disk cwd cwd')
  have habsolute : fs.absolute cwd = fs.absolute cwd' := funext (h.absolute_congr cwd cwd')
  have hrelative : fs.relative cwd = fs.relative cwd' :=
    funext fun p => funext (h.relative_congr cwd cwd' p)
  rw [searchHeader, searchHeader, hprobe, habsolute, hrelative]

theorem Anchored.resolveLink_congr (cwd cwd' : Location) (location : Path) (entry : String) :
    resolveLink fs cwd location entry = resolveLink fs cwd' location entry := by
  rw [resolveLink, resolveLink, h.absolute_congr cwd cwd']

end FileSystem

/-! ## One entry -/

section

variable {fs : FileSystem} {home : Path} {t : Toolset} {s : Store} {project : Project}
  {settings : Configuration} {entry : String}

/-- The way to a library is found from `cwd` and followed in the directory of the file system. -/
theorem resolveLink_of_library (h : fs.Anchored home) {file : Path}
    (hfile : t.linkedFile? s project settings entry = some file) (cwd : Location) :
    resolveLink fs cwd project.location (t.link s cwd (some project) settings entry)
      = Path.toString ⟨(home.join project.location).root,
          (Path.rejoin project.location file (home.locate []) cwd).map .name⟩ := by
  have hroot : (home.join (project.location.join (file.relativeTo project.location cwd))).root
      = (home.join project.location).root := by
    rw [Path.root_join, Path.root_join home, Path.root_join_relative rfl]
  rw [Toolset.link_of_library hfile, resolveLink_withSeparator rfl, h.absolute_eq, hroot,
    Path.locate_join rfl]
  rfl

/-- An entry is the same from two directories iff the library that it names, if it names one, is
found at the same place from both. -/
theorem resolveLink_link_eq_iff (h : fs.Anchored home) (cwd cwd' : Location) :
    resolveLink fs cwd project.location (t.link s cwd (some project) settings entry)
        = resolveLink fs cwd' project.location (t.link s cwd' (some project) settings entry) ↔
      ∀ file, t.linkedFile? s project settings entry = some file →
        Path.rejoin project.location file (home.locate []) cwd
          = Path.rejoin project.location file (home.locate []) cwd' := by
  cases hfile : t.linkedFile? s project settings entry with
  | none =>
    rw [Toolset.link_of_none hfile, Toolset.link_of_none hfile]
    exact iff_of_true (h.resolveLink_congr cwd cwd' _ _) fun _ hsome => by cases hsome
  | some file =>
    rw [resolveLink_of_library h hfile, resolveLink_of_library h hfile]
    constructor
    · rintro heq _ ⟨⟩
      exact Path.eq_of_toString_eq heq
    · intro hplace
      rw [hplace file rfl]

end

/-! ## A configuration -/

/-- A library of the workspace that is linked: where the project is that links it, and its file. -/
structure LibraryLink where
  location : Path
  file : Path

namespace LibraryLink

/-- Where the library is found from `cwd`, if relative paths are read in `home` otherwise. -/
def place (l : LibraryLink) (home cwd : Location) : Location := l.location.rejoin l.file home cwd

/-- The project climbs as far as the file that it links. -/
def Level (l : LibraryLink) : Prop := l.location.climb = l.file.climb

instance (l : LibraryLink) : Decidable l.Level := inferInstanceAs (Decidable (_ = _))

end LibraryLink

namespace Setting

/-- The same with the process working elsewhere. -/
def runIn (x : Setting) (cwd : Location) : Setting := { x with host := { x.host with cwd := cwd } }

/-- The libraries of the workspace that a configuration links. -/
def libraryLinks (x : Setting) (s : Store) (c : ConfigurationId) : List LibraryLink :=
  match s.owner? c, x.registry.resolve s x.override c with
  | some project, .ok t =>
    ((s.configuration c).links.filterMap (t.linkedFile? s project (s.configuration c))).map
      (LibraryLink.mk project.location)
  | _, _ => []

def projectLinks (x : Setting) (s : Store) (p : ProjectId) : List LibraryLink :=
  (s.project p).configurations.flatMap (x.libraryLinks s)

variable {x : Setting} {home : Path} {s : Store} {c : ConfigurationId} {p : ProjectId}

theorem links_of_resolve {r : Resolved} (h : x.resolve s c = .ok r) :
    ∃ project, s.owner? c = some project ∧ r.links = (s.configuration c).links.map fun entry =>
      resolveLink x.fs x.host.cwd project.location
        (r.toolset.link s x.host.cwd (some project) (s.configuration c) entry) := by
  obtain ⟨-, -, hlinks, -, -⟩ := resolve_eq_ok_iff.mp h
  rw [resolveLinks, Toolset.links] at hlinks
  cases howner : s.owner? c with
  | none =>
    rw [howner] at hlinks
    cases hlinks
  | some project =>
    rw [howner] at hlinks
    exact ⟨project, rfl, by rw [← Except.ok.inj hlinks, List.map_map]; rfl⟩

/-- **Wherever the process works, a configuration resolves to the same but for its links.** -/
theorem resolve_runIn (h : x.fs.Anchored home) (s : Store) (c : ConfigurationId)
    (cwd cwd' : Location) :
    (∃ e, (x.runIn cwd).resolve s c = .error e ∧ (x.runIn cwd').resolve s c = .error e) ∨
      ∃ r links, (x.runIn cwd).resolve s c = .ok r ∧
        (x.runIn cwd').resolve s c = .ok { r with links := links } := by
  cases hresolve : (x.runIn cwd).resolve s c with
  | error e =>
    -- What is missing has nothing to do with the disk and its paths.
    have hmissing := resolve_eq_error_iff.mp hresolve
    exact .inl ⟨e, rfl, resolve_eq_error_iff.mpr hmissing⟩
  | ok r =>
    obtain ⟨htoolset, hstandard, -, hoptions, hheader⟩ := resolve_eq_ok_iff.mp hresolve
    obtain ⟨project, howner, -⟩ := links_of_resolve hresolve
    obtain ⟨links, hlinks⟩ := exists_resolveLinks howner x.fs cwd' (r.toolset.links s cwd' c)
    refine .inr ⟨r, links, rfl, resolve_eq_ok_iff.mpr
      ⟨htoolset, hstandard, hlinks, hoptions, ?_⟩⟩
    rw [← hheader]
    exact h.searchHeader_congr x.host.disk cwd' cwd s c

theorem links_runIn_iff (h : x.fs.Anchored home) {cwd cwd' : Location} {r r' : Resolved}
    (hr : (x.runIn cwd).resolve s c = .ok r) (hr' : (x.runIn cwd').resolve s c = .ok r') :
    r.links = r'.links ↔ ∀ l ∈ x.libraryLinks s c,
      l.place (home.locate []) cwd = l.place (home.locate []) cwd' := by
  obtain ⟨project, howner, hlinks⟩ := links_of_resolve hr
  obtain ⟨project', howner', hlinks'⟩ := links_of_resolve hr'
  obtain rfl : project' = project := Option.some.inj (howner'.symm.trans howner)
  have htoolset : x.registry.resolve s x.override c = .ok r.toolset := (resolve_eq_ok_iff.mp hr).1
  have htoolset' : x.registry.resolve s x.override c = .ok r'.toolset :=
    (resolve_eq_ok_iff.mp hr').1
  have hsame : r'.toolset = r.toolset := Except.ok.inj (htoolset'.symm.trans htoolset)
  rw [hlinks, hlinks', hsame, List.map_inj_left, libraryLinks, howner, htoolset]
  constructor
  · intro hall l hl
    obtain ⟨file, hfile, rfl⟩ := List.mem_map.mp hl
    obtain ⟨entry, hentry, hfile⟩ := List.mem_filterMap.mp hfile
    exact (resolveLink_link_eq_iff h cwd cwd').mp (hall entry hentry) file hfile
  · intro hall entry hentry
    refine (resolveLink_link_eq_iff h cwd cwd').mpr fun file hfile => ?_
    exact hall _ (List.mem_map_of_mem (List.mem_filterMap.mpr ⟨entry, hentry, hfile⟩))

/-! ## A project -/

theorem failure_runIn (h : x.fs.Anchored home) (s : Store) (p : ProjectId)
    (cwd cwd' : Location) :
    ((x.runIn cwd).emit s p).failure = ((x.runIn cwd').emit s p).failure := by
  rw [emit_eq, emit_eq]
  dsimp only
  induction (s.project p).configurations with
  | nil => rfl
  | cons c rest ih =>
    obtain ⟨e, he, he'⟩ | ⟨r, links, hr, hr'⟩ := resolve_runIn h s c cwd cwd'
    · rw [emitConfigurations_of_error he, emitConfigurations_of_error he']
    · rw [emitConfigurations_of_ok hr, emitConfigurations_of_ok hr']
      exact ih

theorem emit_runIn_of_place_eq (h : x.fs.Anchored home) {cwd cwd' : Location}
    (hplaces : ∀ l ∈ x.projectLinks s p,
      l.place (home.locate []) cwd = l.place (home.locate []) cwd') :
    (x.runIn cwd).emit s p = (x.runIn cwd').emit s p := by
  rw [emit, emit, emitConfigurations_congr fun c hc => ?_]
  obtain ⟨e, he, he'⟩ | ⟨r, links, hr, hr'⟩ := resolve_runIn h s c cwd cwd'
  · rw [he, he']
  · have hlinks : r.links = links := (links_runIn_iff h hr hr').mpr fun l hl =>
      hplaces l (List.mem_flatMap_of_mem hc hl)
    rw [hr, hr', ← hlinks]

end Setting

def Statement.linkTargets : Statement → List String
  | .append .linkLibraries _ _ values => values
  | _ => []

theorem Resolved.linkTargets_report (r : Resolved) (target : String) (settings : Configuration) :
    (r.report target settings).flatMap Statement.linkTargets = r.links := by
  have hvalues : Statement.linkTargets = Statement.appended .linkLibraries := by
    funext statement
    cases statement with
    | append setting _ _ values => cases setting <;> rfl
    | _ => rfl
  rw [hvalues, r.appended_report target settings .linkLibraries rfl]

namespace Setting

variable {x : Setting} {home : Path} {s : Store} {p : ProjectId}

theorem place_eq_of_linkTargets (h : x.fs.Anchored home) {project : Project}
    {cs : List ConfigurationId} {cwd cwd' : Location}
    (hok : ((x.runIn cwd).emitConfigurations s project cs).failure = none)
    (heq : ((x.runIn cwd).emitConfigurations s project cs).statements.flatMap Statement.linkTargets
      = ((x.runIn cwd').emitConfigurations s project cs).statements.flatMap Statement.linkTargets) :
    ∀ l ∈ cs.flatMap (x.libraryLinks s),
      l.place (home.locate []) cwd = l.place (home.locate []) cwd' := by
  induction cs with
  | nil => exact fun l hl => absurd hl List.not_mem_nil
  | cons c rest ih =>
    obtain ⟨e, he, -⟩ | ⟨r, links, hr, hr'⟩ := resolve_runIn h s c cwd cwd'
    · rw [emitConfigurations_of_error he] at hok
      cases hok
    · rw [emitConfigurations_of_ok hr] at hok heq
      rw [emitConfigurations_of_ok hr', List.flatMap_append, List.flatMap_append,
        Resolved.linkTargets_report, Resolved.linkTargets_report] at heq
      -- A configuration has as many link targets as it has entries, wherever they are.
      have hlength : r.links.length = links.length := by
        obtain ⟨_, -, hlinks⟩ := links_of_resolve hr
        obtain ⟨_, -, hlinks'⟩ := links_of_resolve hr'
        rw [hlinks, show links = _ from hlinks', List.length_map, List.length_map]
      obtain ⟨hlinks, hrest⟩ := List.append_inj heq hlength
      intro l hl
      rw [List.flatMap_cons, List.mem_append] at hl
      rcases hl with hl | hl
      · exact (links_runIn_iff h hr hr').mp hlinks l hl
      · exact ih hok hrest l hl

/-- **Two directories give the same script iff all libraries are found at the same places.** -/
theorem emit_runIn_iff (h : x.fs.Anchored home) (hok : (x.emit s p).failure = none)
    (cwd cwd' : Location) :
    (x.runIn cwd).emit s p = (x.runIn cwd').emit s p ↔
      ∀ l ∈ x.projectLinks s p, l.place (home.locate []) cwd = l.place (home.locate []) cwd' := by
  refine ⟨fun heq => ?_, emit_runIn_of_place_eq h⟩
  have hhere : ((x.runIn cwd).emit s p).failure = none :=
    (failure_runIn h s p cwd x.host.cwd).trans hok
  rw [emit_eq] at hhere
  have hstatements := congrArg Emission.statements heq
  rw [emit_eq, emit_eq] at hstatements
  exact place_eq_of_linkTargets h hhere
    (congrArg (List.flatMap Statement.linkTargets) (List.append_cancel_left hstatements))

/-- What is emitted for a project does not hang on the directory that the process works in. -/
def SameEverywhere (x : Setting) (s : Store) (p : ProjectId) : Prop :=
  ∀ cwd cwd', (x.runIn cwd).emit s p = (x.runIn cwd').emit s p

/-- How the script of a project hangs on the directory that the process works in. -/
structure FromAnywhere (x : Setting) (home : Path) (s : Store) (p : ProjectId) : Prop where
  /-- A script that cannot be rendered cannot be rendered anywhere, for the same reason. -/
  error : ∀ cwd cwd' e, (x.runIn cwd).renderProject s p = .error e →
    (x.runIn cwd').renderProject s p = .error e
  /-- A script that can be is the same in two directories iff the ways to its libraries lead to the
  same places from both. -/
  pair : ∀ cwd cwd', (x.emit s p).failure = none →
    ((x.runIn cwd).emit s p = (x.runIn cwd').emit s p ↔
      ∀ l ∈ x.projectLinks s p, l.place (home.locate []) cwd = l.place (home.locate []) cwd')
  /-- It is the same in all directories if every project climbs as far as the files that it
  links. -/
  same : (∀ l ∈ x.projectLinks s p, l.Level) →
    ∀ cwd cwd', (x.runIn cwd).renderProject s p = (x.runIn cwd').renderProject s p
  /-- Nothing else makes it the same in all directories, as long as libraries are called by
  names. -/
  only : (x.emit s p).failure = none →
    (∀ identifier t, x.registry.get? identifier = some t → t.NamesFiles) →
    x.SameEverywhere s p → ∀ l ∈ x.projectLinks s p, l.Level

theorem names_ne_nil_of_mem_projectLinks
    (hnames : ∀ identifier t, x.registry.get? identifier = some t → t.NamesFiles)
    {l : LibraryLink} (hl : l ∈ x.projectLinks s p) : l.file.names ≠ [] := by
  obtain ⟨c, -, hl⟩ := List.mem_flatMap.mp hl
  rw [libraryLinks] at hl
  split at hl
  · next project t howner ht =>
    obtain ⟨file, hfile, rfl⟩ := List.mem_map.mp hl
    obtain ⟨entry, -, hfile⟩ := List.mem_filterMap.mp hfile
    exact (hnames _ t (Registry.get?_of_resolve ht)).names_ne_nil hfile
  · cases hl

/-- **The script of a project is the same wherever the process works, unless a project and a file
that it links climb to different places.** -/
theorem emit_fromAnywhere (h : x.fs.Anchored home) (s : Store) (p : ProjectId) :
    x.FromAnywhere home s p := by
  constructor
  case error =>
    intro cwd cwd' e he
    rw [renderProject, script_eq_error_iff] at he ⊢
    rw [← failure_runIn h s p cwd cwd', he]
  case pair => exact fun cwd cwd' hok => emit_runIn_iff h hok cwd cwd'
  case same =>
    intro hall cwd cwd'
    have hemit : (x.runIn cwd).emit s p = (x.runIn cwd').emit s p := by
      refine emit_runIn_of_place_eq h fun l hl => ?_
      rw [LibraryLink.place, LibraryLink.place, Path.rejoin_of_climb_eq (hall l hl),
        Path.rejoin_of_climb_eq (hall l hl)]
    rw [renderProject, hemit, renderProject]
  case only =>
    intro hok hnames hall l hl
    have hname : l.file.names ≠ [] := names_ne_nil_of_mem_projectLinks hnames hl
    refine (Path.rejoin_eq_iff hname (home.locate [])).mp fun cwd => ?_
    -- The directory of the file system is one of those that the process may work in.
    have hplaces := (emit_runIn_iff h hok cwd (home.locate [])).mp (hall cwd (home.locate []))
    exact (hplaces l hl).trans (Path.rejoin_self _ _ _)

end Setting

/-- A library that is linked by a program next to it and by one that is located from the directory
that paths are read in. -/
def Sample.distant : Store where
  projects := [
    { name := "app", location := .ofString "app", dependencies := [⟨2⟩],
      configurations := [⟨0⟩] },
    { name := "tool", location := .ofString "/opt/tool", dependencies := [⟨2⟩],
      configurations := [⟨1⟩] },
    { name := "core", kind := .staticLibrary, location := .ofString "/opt/core",
      configurations := [⟨2⟩] }]
  configurations := [
    ⟨{ name := "Debug", links := ["core"], toolset := some "gcc" }, some ⟨0⟩⟩,
    ⟨{ name := "Debug", links := ["core"], toolset := some "gcc" }, some ⟨1⟩⟩,
    ⟨{ name := "Debug" }, some ⟨2⟩⟩]

/-- Nothing is on the disk, and relative paths are read in a directory of their own. -/
def Sample.anchored : Setting :=
  { host := ⟨.empty, []⟩, fs := { directory := some (.ofString "/w") } }

namespace Setting

/-- The program next to it links the library wherever the process works, and the other one does
not. -/
theorem emit_fromAnywhere_sample :
    (Sample.anchored.runIn []).renderProject Sample.distant ⟨1⟩
        = (Sample.anchored.runIn [⟨"w", by decide⟩]).renderProject Sample.distant ⟨1⟩ ∧
      ¬ Sample.anchored.SameEverywhere Sample.distant ⟨0⟩ := by
  have hanchored : Sample.anchored.fs.Anchored (.ofString "/w") := ⟨rfl, by decide⟩
  have hlevel : ∀ l ∈ Sample.anchored.projectLinks Sample.distant ⟨1⟩, l.Level := by decide
  have hslope : ¬ ∀ l ∈ Sample.anchored.projectLinks Sample.distant ⟨0⟩, l.Level := by decide
  refine ⟨(emit_fromAnywhere hanchored Sample.distant ⟨1⟩).same hlevel _ _, fun heverywhere => ?_⟩
  exact hslope ((emit_fromAnywhere hanchored Sample.distant ⟨0⟩).only (by decide)
    (fun _ _ => Toolset.namesFiles_of_standard) heverywhere)

/-- That one links it only if the process works in the directory that paths are read in. -/
theorem renderProject_ne_of_runIn :
    (Sample.anchored.runIn []).renderProject Sample.distant ⟨0⟩
      ≠ (Sample.anchored.runIn [⟨"w", by decide⟩]).renderProject Sample.distant ⟨0⟩ ∧
    ((Sample.anchored.runIn []).emit Sample.distant ⟨0⟩).statements.flatMap
      Statement.linkTargets = ["/w/opt/core/libcore.a"] ∧
    ((Sample.anchored.runIn [⟨"w", by decide⟩]).emit Sample.distant ⟨0⟩).statements.flatMap
      Statement.linkTargets = ["/opt/core/libcore.a"] := by
  exact ⟨by decide +kernel, by decide, by decide⟩

end Setting

end CMakeGen
