import CMakeGen.Proofs.Disk.Agreement
import CMakeGen.Proofs.Emission.Generation
import CMakeGen.Proofs.Emission.HeaderSearch
import CMakeGen.Proofs.Emission.Report
import CMakeGen.Proofs.Script.Includes
import Mathlib.Data.List.Find

/-!
# One project after the other, in any order

A project is rendered on the disk as it is at its turn, with the output directory made and the scripts
of the projects before it written. All that rendering asks a disk for is whether the candidates for a
precompiled header are files (`renderProject_onDisk`). So **where no candidate is a script, every script is
what it would be on the disk as it was at first** (`Passes.render`), and a run comes to putting files at
their places (`Passes.run`): in any order, and as often as one likes.
-/

namespace CMakeGen

/-! ## What rendering asks the disk for -/

namespace Setting

variable {x : Setting} {s : Store} {c : ConfigurationId} {p : ProjectId} {disk : Disk}

/-- The same on another disk. -/
def onDisk (x : Setting) (disk : Disk) : Setting := { x with host := { x.host with disk := disk } }

/-- The places where the precompiled header of a configuration may be. -/
def headerPlaces (x : Setting) (s : Store) (c : ConfigurationId) : List Location :=
  match wantedHeader? (s.configuration c), s.owner? c with
  | some header, some project =>
    (headerCandidates project (s.configuration c) header).map fun candidate =>
      (x.fs.absolute x.host.cwd candidate).locate x.host.cwd
  | _, _ => []

theorem searchHeader_onDisk (h : x.host.Sound) (haccessible : x.host.disk.Accessible disk)
    (hfiles : ∀ place ∈ x.headerPlaces s c, disk.file? place = x.host.disk.file? place) :
    searchHeader x.fs ⟨disk, x.host.cwd⟩ s c = searchHeader x.fs x.host s c := by
  rw [searchHeader, searchHeader]
  rw [headerPlaces] at hfiles
  cases hwanted : wantedHeader? (s.configuration c) with
  | none => rfl
  | some header =>
    cases howner : s.owner? c with
    | none => rfl
    | some project =>
      have hfind : (headerCandidates project (s.configuration c) header).find?
            (x.fs.probe ⟨disk, x.host.cwd⟩ · = some true)
          = (headerCandidates project (s.configuration c) header).find?
            (x.fs.probe x.host · = some true) := by
        refine List.find?_congr fun candidate hcandidate => ?_
        rw [hwanted, howner] at hfiles
        have hfile := hfiles _ (List.mem_map_of_mem hcandidate)
        exact decide_eq_decide.mpr (FileSystem.probe_eq_true_congr h haccessible hfile)
      simp only [hfind]

/-- **A project is rendered alike on a disk on which the candidates for its headers are what they
are.** -/
theorem renderProject_onDisk (h : x.host.Sound) (haccessible : x.host.disk.Accessible disk)
    (hfiles : ∀ c ∈ (s.project p).configurations, ∀ place ∈ x.headerPlaces s c,
      disk.file? place = x.host.disk.file? place) :
    (x.onDisk disk).renderProject s p = x.renderProject s p := by
  have hresolve : ∀ c ∈ (s.project p).configurations,
      (x.onDisk disk).resolve s c = x.resolve s c := by
    intro c hc
    have hheader := searchHeader_onDisk h haccessible (hfiles c hc)
    simp only [resolve, onDisk, hheader]
  rw [renderProject, renderProject, emit, emit, emitConfigurations_congr hresolve]

end Setting

namespace Generation

variable {g : Generation} {host : Host} {s : Store} {outputDir : Path} {cwd : Location}
  {projects projects' : List ProjectId} {texts : List String} {scripts : ProjectId → String}
  {places : List Location} {disk disk' : Disk}

/-! ## A run as a list of files -/

/-- The paths that a run writes. -/
def paths (g : Generation) (s : Store) (outputDir : Path) (projects : List ProjectId) :
    List Path :=
  (projects.map fun p => projectFile outputDir (s.project p))
    ++ if g.writesWorkspace then [workspaceFile outputDir] else []

/-- What it writes to them, if those are the scripts. -/
def files (g : Generation) (s : Store) (outputDir : Path) (scripts : ProjectId → String)
    (projects : List ProjectId) : List (Path × String) :=
  (projects.map fun p => (projectFile outputDir (s.project p), scripts p))
    ++ if g.writesWorkspace then
        [(workspaceFile outputDir, renderWorkspace g.workspace s projects)]
      else []

theorem map_fst_files (g : Generation) (s : Store) (outputDir : Path)
    (scripts : ProjectId → String) (projects : List ProjectId) :
    (g.files s outputDir scripts projects).map (·.1) = g.paths s outputDir projects := by
  rw [files, paths, List.map_append, List.map_map]
  congr 1
  split <;> rfl

/-- In a run that succeeds each script could have been written, and rendered, on a disk that differs
from the first one in scripts alone. -/
theorem Writes.canWrite (h : Writes g.setting s outputDir cwd disk projects texts disk') :
    disk.AgreesOutside (projects.map (scriptPlace s outputDir cwd)) disk' ∧
    ∀ p ∈ projects, disk.CanWrite cwd (projectFile outputDir (s.project p)) ∧
      ∃ stage, disk.AgreesOutside (projects.map (scriptPlace s outputDir cwd)) stage ∧
        ∃ text, (g.setting ⟨stage, cwd⟩).renderProject s p = .ok text := by
  induction h with
  | nil disk =>
    refine ⟨.refl _ disk, ?_⟩
    intro p hp
    cases hp
  | @cons disk disk' disk'' p text projects texts render write rest ih =>
    obtain ⟨hwrite, rfl⟩ := Disk.write_eq_none_iff.mp write
    obtain ⟨hagree, hrest⟩ := ih
    have hput : disk.AgreesOutside ((p :: projects).map (scriptPlace s outputDir cwd))
        (disk.put (scriptPlace s outputDir cwd p) (.file text.toUTF8)) :=
      .put List.mem_cons_self hwrite.node _
    have hbehind := List.subset_cons_self (scriptPlace s outputDir cwd p)
      (projects.map (scriptPlace s outputDir cwd))
    refine ⟨hput.trans (hagree.mono hbehind), ?_⟩
    intro q hq
    rcases List.mem_cons.mp hq with rfl | hq
    · exact ⟨hwrite, disk, .refl _ disk, text, render⟩
    · obtain ⟨hcan, stage, hstage, hrender⟩ := hrest q hq
      exact ⟨hput.canWrite_iff.mp hcan, stage, hput.trans (hstage.mono hbehind), hrender⟩

/-- Passes that do not notice each other: on every disk that differs from `disk` in files at `places`
alone, the scripts are the same, and all files can be written. -/
structure Passes (g : Generation) (s : Store) (outputDir : Path) (cwd : Location)
    (scripts : ProjectId → String) (places : List Location) (disk : Disk)
    (projects : List ProjectId) : Prop where
  render : ∀ p ∈ projects, ∀ stage, disk.AgreesOutside places stage →
    (g.setting ⟨stage, cwd⟩).renderProject s p = .ok (scripts p)
  write : ∀ path ∈ g.paths s outputDir projects,
    disk.CanWrite cwd path ∧ path.locate cwd ∈ places

namespace Passes

variable (h : g.Passes s outputDir cwd scripts places disk projects)

include h

theorem perm (hperm : projects'.Perm projects) :
    g.Passes s outputDir cwd scripts places disk projects' where
  render p hp := h.render p (hperm.mem_iff.mp hp)
  write path hpath := by
    refine h.write path ?_
    rw [paths, List.mem_append] at hpath ⊢
    exact hpath.imp_left (hperm.map _).mem_iff.mp

theorem onDisk (hagree : disk.AgreesOutside places disk') :
    g.Passes s outputDir cwd scripts places disk' projects where
  render p hp stage hstage := h.render p hp stage (hagree.trans hstage)
  write path hpath := by
    rw [hagree.canWrite_iff]
    exact h.write path hpath

theorem files_write : ∀ file ∈ g.files s outputDir scripts projects,
    disk.CanWrite cwd file.1 ∧ file.1.locate cwd ∈ places := by
  intro file hfile
  refine h.write file.1 ?_
  rw [← map_fst_files g s outputDir scripts]
  exact List.mem_map_of_mem hfile

theorem files_ne_nil : ∀ file ∈ g.files s outputDir scripts projects,
    file.1.locate cwd ≠ [] := by
  intro file hfile
  exact Disk.ne_nil_of_node?_ne (h.files_write file hfile).1.node

theorem agreesOutside :
    disk.AgreesOutside places (disk.putFiles cwd (g.files s outputDir scripts projects)) :=
  .putFiles h.files_write

/-- The turns of some of the projects, from any disk that may lie between. -/
theorem writes (hagree : disk.AgreesOutside places disk') {rest : List ProjectId}
    (hrest : ∀ p ∈ rest, p ∈ projects) :
    Writes g.setting s outputDir cwd disk' rest (rest.map scripts)
      (disk'.putFiles cwd (rest.map fun p => (projectFile outputDir (s.project p), scripts p))) := by
  induction rest generalizing disk' with
  | nil => exact .nil disk'
  | cons p rest ih =>
    obtain ⟨hp, hrest⟩ := List.forall_mem_cons.mp hrest
    obtain ⟨hcan, hplace⟩ :=
      h.write _ (List.mem_append_left _ (List.mem_map_of_mem hp))
    have hwrite := hagree.canWrite_iff.mpr hcan
    exact .cons (h.render p hp disk' hagree) (hwrite.write _)
      (ih (hagree.trans (.put hplace hwrite.node _)) hrest)

end Passes

/-- **A run of such passes succeeds and puts the files at their places.** -/
theorem run_of_passes (hmade : host.disk.makeDirectories host.cwd outputDir = (disk, none))
    (h : g.Passes s outputDir host.cwd scripts places disk projects) :
    (g.run host s projects outputDir).failure = none ∧
      (g.run host s projects outputDir).disk
        = disk.putFiles host.cwd (g.files s outputDir scripts projects) ∧
      (g.run host s projects outputDir).written = g.paths s outputDir projects := by
  have hwrites := h.writes (.refl places disk) fun p hp => hp
  obtain ⟨hdisk, hfailure, hwritten⟩ := run_of_writes g hmade hwrites
  rw [hdisk, hfailure, hwritten, files, paths]
  cases hg : g.writesWorkspace with
  | false =>
    rw [writeWorkspace_of_not hg]
    exact ⟨rfl, by simp, rfl⟩
  | true =>
    have hlisted : workspaceFile outputDir ∈ g.paths s outputDir projects := by
      rw [paths, hg]
      exact List.mem_append_right _ List.mem_cons_self
    have hscripts : disk.AgreesOutside places (disk.putFiles host.cwd
        (projects.map fun p => (projectFile outputDir (s.project p), scripts p))) := by
      refine .putFiles fun file hfile => h.files_write file ?_
      exact List.mem_append_left _ hfile
    have hlist := (hscripts.canWrite_iff.mpr (h.write _ hlisted).1).write
      (renderWorkspace g.workspace s projects).toUTF8
    rw [writeWorkspace_of_ok hg hlist, if_pos rfl, Disk.putFiles_append]
    exact ⟨rfl, rfl, rfl⟩

theorem map_locate_files (g : Generation) (s : Store) (outputDir : Path) (cwd : Location)
    (scripts : ProjectId → String) (projects : List ProjectId) :
    (g.files s outputDir scripts projects).map (·.1.locate cwd)
      = (g.paths s outputDir projects).map (·.locate cwd) := by
  rw [← map_fst_files g s outputDir scripts, List.map_map]
  rfl

section

variable (hmade : host.disk.makeDirectories host.cwd outputDir = (disk, none))
  (h : g.Passes s outputDir host.cwd scripts places disk projects)
  (hnodup : ((g.paths s outputDir projects).map (·.locate host.cwd)).Nodup)

include hmade h hnodup

/-- What was written to a place of its own is read there. -/
theorem read_of_passes {path : Path} {text : String}
    (hfile : (path, text) ∈ g.files s outputDir scripts projects) :
    (g.run host s projects outputDir).disk.read host.cwd path = .ok text.toUTF8 := by
  rw [← map_locate_files g s outputDir host.cwd scripts] at hnodup
  have hwrite : disk.CanWrite host.cwd path := (h.files_write _ hfile).1
  have hnode := Disk.node?_putFiles_of_mem (d := disk) h.files_ne_nil hnodup hfile
  rw [(run_of_passes hmade h).2.1]
  refine Disk.read_eq_ok_iff.mpr ⟨hwrite.hasNull, h.agreesOutside.forth.find hwrite.find, ?_⟩
  rw [Disk.file?, hnode]

/-- In another order the same files are put, but for the script that includes the others. -/
theorem node?_run_of_perm (hperm : projects'.Perm projects) {place : Location}
    (hplace : place ≠ (workspaceFile outputDir).locate host.cwd) :
    (g.run host s projects' outputDir).disk.node? place
      = (g.run host s projects outputDir).disk.node? place := by
  have h' := h.perm hperm
  have hnodup' : ((g.paths s outputDir projects').map (·.locate host.cwd)).Nodup := by
    refine (List.Perm.map _ ?_).nodup_iff.mpr hnodup
    exact (hperm.map _).append_right _
  rw [← map_locate_files g s outputDir host.cwd scripts] at hnodup hnodup'
  rw [(run_of_passes hmade h').2.1, (run_of_passes hmade h).2.1]
  apply Disk.node?_putFiles_congr h'.files_ne_nil h.files_ne_nil hnodup' hnodup
  intro file hlocate
  have hlast (projects : List ProjectId) : file ∉ (if g.writesWorkspace then
      [(workspaceFile outputDir, renderWorkspace g.workspace s projects)] else []) := by
    split
    · intro hmem
      rw [List.mem_singleton.mp hmem] at hlocate
      exact hplace hlocate.symm
    · exact List.not_mem_nil
  rw [files, files, List.mem_append, List.mem_append, or_iff_left (hlast projects'),
    or_iff_left (hlast projects)]
  exact (hperm.map _).mem_iff

/-- The directory is there and so are the files, and a second run finds and leaves them so. -/
theorem run_again_of_passes :
    (g.run ⟨(g.run host s projects outputDir).disk, host.cwd⟩ s projects outputDir).failure
      = none ∧
    (g.run ⟨(g.run host s projects outputDir).disk, host.cwd⟩ s projects outputDir).disk
      = (g.run host s projects outputDir).disk := by
  rw [← map_locate_files g s outputDir host.cwd scripts] at hnodup
  rw [(run_of_passes hmade h).2.1]
  let last : Host := ⟨disk.putFiles host.cwd (g.files s outputDir scripts projects), host.cwd⟩
  have hdirectory := Disk.isDirectory_of_makeDirectories hmade
  have hstill : last.disk.makeDirectories last.cwd outputDir = (last.disk, none) :=
    Disk.makeDirectories_eq_self (h.agreesOutside.forth.isDirectory hdirectory)
  obtain ⟨hfailure, hdisk, -⟩ := run_of_passes hstill (h.onDisk h.agreesOutside)
  refine ⟨hfailure, hdisk.trans (Disk.putFiles_eq_self ?_)⟩
  intro file hfile
  exact Disk.node?_putFiles_of_mem h.files_ne_nil hnodup hfile

end

/-! ## Independent passes -/

/-- No script is written where a listed configuration looks for its precompiled header. -/
def KeepsHeaders (g : Generation) (host : Host) (s : Store) (projects : List ProjectId)
    (outputDir : Path) : Prop :=
  ∀ p ∈ projects, ∀ c ∈ (s.project p).configurations, ∀ place ∈ (g.setting host).headerPlaces s c,
    place ∉ (g.run host s projects outputDir).written.map (·.locate host.cwd)

theorem written_eq_paths (h : (g.run host s projects outputDir).failure = none) :
    (g.run host s projects outputDir).written = g.paths s outputDir projects := by
  obtain ⟨_, _, -, -, -, hnone, hwritten⟩ := run_completed h
  rw [hwritten, paths]
  cases hg : g.writesWorkspace with
  | false =>
    rw [writeWorkspace_of_not hg]
    rfl
  | true =>
    rw [(writeWorkspace_completed hg hnone).2]
    rfl

/-- The files of a run that succeeds could be written on the disk with the output directory made. -/
theorem canWrite_of_run {made last : Disk}
    (hagree : made.AgreesOutside (projects.map (scriptPlace s outputDir host.cwd)) last)
    (hscripts : ∀ p ∈ projects, made.CanWrite host.cwd (projectFile outputDir (s.project p)))
    (hnone : (g.writeWorkspace s outputDir projects ⟨last, host.cwd⟩).failure = none) :
    ∀ path ∈ g.paths s outputDir projects, made.CanWrite host.cwd path := by
  intro path hpath
  rcases List.mem_append.mp hpath with hscript | hlist
  · obtain ⟨p, hp, rfl⟩ := List.mem_map.mp hscript
    exact hscripts p hp
  · cases hg : g.writesWorkspace with
    | false =>
      rw [hg] at hlist
      cases hlist
    | true =>
      rw [hg] at hlist
      obtain rfl := List.mem_singleton.mp hlist
      have hwrite := (writeWorkspace_completed hg hnone).1
      exact hagree.canWrite_iff.mp (Disk.write_eq_none_iff.mp hwrite).1

/-- A run that succeeds is one of such passes, with the scripts of the disk as it was at first. -/
theorem exists_passes (hhost : host.Sound) (h : (g.run host s projects outputDir).failure = none)
    (hheaders : g.KeepsHeaders host s projects outputDir) :
    ∃ made scripts, host.disk.makeDirectories host.cwd outputDir = (made, none) ∧
      (∀ p ∈ projects, (g.setting host).renderProject s p = .ok (scripts p)) ∧
      g.Passes s outputDir host.cwd scripts
        ((g.paths s outputDir projects).map (·.locate host.cwd)) made projects := by
  rw [KeepsHeaders, written_eq_paths h] at hheaders
  obtain ⟨made, texts, hmade, hwrites, -, hnone, -⟩ := run_completed h
  obtain ⟨hagree, hcan⟩ := hwrites.canWrite
  have haccessible := Disk.accessible_makeDirectories host.disk host.cwd outputDir
  have hfile := Disk.file?_makeDirectories host.disk host.cwd outputDir
  rw [hmade] at haccessible hfile
  have hsame : ∀ p ∈ projects, ∀ stage,
      made.AgreesOutside ((g.paths s outputDir projects).map (·.locate host.cwd)) stage →
      (g.setting ⟨stage, host.cwd⟩).renderProject s p = (g.setting host).renderProject s p := by
    intro p hp stage hstage
    refine Setting.renderProject_onDisk (x := g.setting host) hhost
      (haccessible.trans hstage.forth) fun c hc place hplace => ?_
    exact (hstage.files place (hheaders p hp c hc place hplace)).trans (hfile place)
  have hscripts : projects.map (scriptPlace s outputDir host.cwd)
      ⊆ (g.paths s outputDir projects).map (·.locate host.cwd) := by
    rw [paths, List.map_append, List.map_map]
    exact List.subset_append_left _ _
  have hrender : ∀ p ∈ projects, ∃ text, (g.setting host).renderProject s p = .ok text := by
    intro p hp
    obtain ⟨-, stage, hstage, text, htext⟩ := hcan p hp
    exact ⟨text, (hsame p hp stage (hstage.mono hscripts)).symm.trans htext⟩
  obtain ⟨scripts, hall⟩ : ∃ scripts : ProjectId → String, ∀ p ∈ projects,
      (g.setting host).renderProject s p = .ok (scripts p) := by
    refine ⟨fun p => ((g.setting host).renderProject s p).toOption.getD "", fun p hp => ?_⟩
    obtain ⟨text, htext⟩ := hrender p hp
    simp only [htext]
    rfl
  refine ⟨made, scripts, hmade, hall, fun p hp stage hstage => ?_, fun path hpath => ⟨?_, ?_⟩⟩
  · rw [hsame p hp stage hstage, hall p hp]
  · exact canWrite_of_run hagree (fun p hp => (hcan p hp).1) hnone path hpath
  · exact List.mem_map_of_mem hpath

/-- What a run comes to if no project notices the others. -/
structure Independent (g : Generation) (host : Host) (s : Store) (projects : List ProjectId)
    (outputDir : Path) : Prop where
  /-- Every script is the one that is rendered on the disk as it was at first. -/
  script : ∀ p ∈ projects, ∃ text, (g.setting host).renderProject s p = .ok text ∧
    (g.run host s projects outputDir).disk.read host.cwd (projectFile outputDir (s.project p))
      = .ok text.toUTF8
  /-- In another order the same is left, but for the script that includes the others. -/
  order : ∀ projects' : List ProjectId, projects'.Perm projects →
    (g.run host s projects' outputDir).failure = none ∧
    (g.run host s projects' outputDir).disk.denied
      = (g.run host s projects outputDir).disk.denied ∧
    (g.run host s projects' outputDir).disk.full
      = (g.run host s projects outputDir).disk.full ∧
    ∀ place, place ≠ (workspaceFile outputDir).locate host.cwd →
      (g.run host s projects' outputDir).disk.node? place
        = (g.run host s projects outputDir).disk.node? place
  /-- In that one the lines of the projects come in the order of the run. -/
  list : g.writesWorkspace = true → ∀ name, g.workspace = some name →
    ∀ projects' : List ProjectId, projects'.Perm projects →
      (g.run host s projects' outputDir).disk.read host.cwd (workspaceFile outputDir)
        = .ok (String.ofList (Script.workspaceHead name
            ++ projects'.flatMap (Script.includeLine s))).toUTF8
  /-- A second run changes nothing. -/
  again : (g.run ⟨(g.run host s projects outputDir).disk, host.cwd⟩ s projects outputDir).failure
      = none ∧
    (g.run ⟨(g.run host s projects outputDir).disk, host.cwd⟩ s projects outputDir).disk
      = (g.run host s projects outputDir).disk

/-- A run leaves a tree that the process still works in, so another one can follow. -/
theorem run_sound (g : Generation) (hhost : host.Sound) (s : Store) (projects : List ProjectId)
    (outputDir : Path) : Host.Sound ⟨(g.run host s projects outputDir).disk, host.cwd⟩ :=
  run_induction (P := fun disk => Host.Sound ⟨disk, host.cwd⟩) g s projects outputDir
    (fun hmake h => h.makeDirectory hmake) (fun p contents h => h.write p contents) hhost

/-- **Projects are independent passes.** -/
theorem run_independent (hhost : host.Sound)
    (h : (g.run host s projects outputDir).failure = none)
    (hplaces : ((g.run host s projects outputDir).written.map (·.locate host.cwd)).Nodup)
    (hheaders : g.KeepsHeaders host s projects outputDir) :
    g.Independent host s projects outputDir := by
  obtain ⟨made, scripts, hmade, hrender, hpasses⟩ := exists_passes hhost h hheaders
  rw [written_eq_paths h] at hplaces
  constructor
  case script =>
    intro p hp
    have hfile : (projectFile outputDir (s.project p), scripts p)
        ∈ g.files s outputDir scripts projects :=
      List.mem_append_left _ (List.mem_map_of_mem hp)
    exact ⟨scripts p, hrender p hp, read_of_passes hmade hpasses hplaces hfile⟩
  case order =>
    intro projects' hperm
    have hpasses' := hpasses.perm hperm
    obtain ⟨hfailure, hdisk', -⟩ := run_of_passes hmade hpasses'
    refine ⟨hfailure, ?_, ?_, fun place => node?_run_of_perm hmade hpasses hplaces hperm⟩
    · rw [hdisk', (run_of_passes hmade hpasses).2.1, hpasses'.agreesOutside.forth.denied,
        hpasses.agreesOutside.forth.denied]
    · rw [hdisk', (run_of_passes hmade hpasses).2.1, hpasses'.agreesOutside.full,
        hpasses.agreesOutside.full]
  case list =>
    intro hg name hname projects' hperm
    have hplaces' : ((g.paths s outputDir projects').map (·.locate host.cwd)).Nodup :=
      ((hperm.map _).append_right _).map _ |>.nodup_iff.mpr hplaces
    have hfile : (workspaceFile outputDir, renderWorkspace g.workspace s projects')
        ∈ g.files s outputDir scripts projects' := by
      rw [files, hg]
      exact List.mem_append_right _ List.mem_cons_self
    rw [read_of_passes hmade (hpasses.perm hperm) hplaces' hfile, hname,
      Script.renderWorkspace_some]
  case again => exact run_again_of_passes hmade hpasses hplaces

end Generation

/-- A program and its library with one header for both, in a directory next to them. -/
def Sample.together : Store where
  projects := [
    { name := "app", baseDir := .ofString "app", dependencies := [⟨1⟩], configurations := [⟨0⟩] },
    { name := "core", kind := .staticLibrary, baseDir := .ofString "core",
      configurations := [⟨1⟩] }]
  configurations := [
    ⟨{ name := "Debug", pchHeader := some "pch.h", includeDirs := ["inc", "../shared"] },
      some ⟨0⟩⟩,
    ⟨{ name := "Debug", pchHeader := some "pch.h", includeDirs := ["../shared"] }, some ⟨1⟩⟩]

theorem Generation.run_independent_sample :
    ({ workspace := some "all" } : Generation).Independent Sample.shadowed Sample.together
      [⟨0⟩, ⟨1⟩] (.ofString "build") := by
  have hhost : Sample.shadowed.Sound := ⟨by decide, rfl⟩
  refine run_independent hhost (by decide) (by decide) ?_
  unfold KeepsHeaders
  decide

end CMakeGen
