import CMakeGen.Proofs.Emission.Generation
import CMakeGen.Proofs.Workspace.WellFormed

/-!
# A file for every project

The projects of a workspace have different names, and the file of a project is made of its name. But
reading a workspace does not ask for a name to be a single part of a path, so **different names may
lead to one file**: `a` and `./a` do, and the script of the second project overwrites the one of the
first without a word (`run_sharedScript`). The file of `../a` is not in the output directory at all.

That is all that can go wrong in a run that succeeds (`run_ownFiles`). Where names hold no slash, it
leaves every script in a file of its own, directly in the output directory, where the script is read
back as it was rendered; and whatever the names, no other file is touched.
-/

namespace CMakeGen

namespace Generation

/-- Every script has a file of its own in the output directory, and no other file has changed. -/
structure OwnFiles (g : Generation) (host : Host) (s : Store) (projects : List ProjectId)
    (outputDir : Path) : Prop where
  count : (g.run host s projects outputDir).written.length = projects.length + 1
  distinct : ((g.run host s projects outputDir).written.map (·.locate host.cwd)).Nodup
  inside : ∀ file ∈ (g.run host s projects outputDir).written,
    ∃ entry, file.locate host.cwd = outputDir.locate host.cwd ++ [entry]
  /-- A script is rendered on the disk that the projects before it leave. -/
  script : ∀ before p after, projects = before ++ p :: after →
    ∃ text, (g.setting ⟨(g.scriptsOnly.run host s before outputDir).disk, host.cwd⟩).renderProject
        s p = .ok text ∧
      (g.run host s projects outputDir).disk.read host.cwd (projectFile outputDir (s.project p))
        = .ok text.toUTF8
  list : (g.run host s projects outputDir).disk.read host.cwd (workspaceFile outputDir)
    = .ok (renderWorkspace g.workspace s projects).toUTF8
  others : host.disk.KeepsOutside
    ((g.run host s projects outputDir).written.map (·.locate host.cwd))
    (g.run host s projects outputDir).disk

variable {g : Generation} {host : Host} {s : Store} {outputDir : Path} {cwd : Location}
  {projects : List ProjectId}

/-! ## Whatever the names -/

section

variable (hg : g.writesWorkspace = true)
  (h : (g.run host s projects outputDir).failure = none)

include hg h

/-- The last write is that of the script that includes the others. -/
theorem write_workspaceFile :
    (g.scriptsOnly.run host s projects outputDir).disk.write host.cwd (workspaceFile outputDir)
      (renderWorkspace g.workspace s projects).toUTF8
      = ((g.run host s projects outputDir).disk, none) := by
  obtain ⟨-, -, -, -, hdisk, hnone, -⟩ := run_completed h
  rw [hdisk]
  exact (writeWorkspace_completed hg hnone).1

theorem written_eq : (g.run host s projects outputDir).written
    = projects.map (fun p => projectFile outputDir (s.project p)) ++ [workspaceFile outputDir] := by
  obtain ⟨-, -, -, -, -, hnone, hwritten⟩ := run_completed h
  rw [hwritten, (writeWorkspace_completed hg hnone).2]

theorem map_locate_written : (g.run host s projects outputDir).written.map (·.locate host.cwd)
    = projects.map (scriptPlace s outputDir host.cwd)
      ++ [(workspaceFile outputDir).locate host.cwd] := by
  rw [written_eq hg h, List.map_append, List.map_map]
  rfl

theorem run_keepsOutside :
    host.disk.KeepsOutside ((g.run host s projects outputDir).written.map (·.locate host.cwd))
      (g.run host s projects outputDir).disk := by
  obtain ⟨made, texts, hmade, hwrites, -⟩ := run_completed h
  intro place hplace
  rw [map_locate_written hg h, List.mem_append, List.mem_singleton, not_or] at hplace
  rw [Disk.file?_write (write_workspaceFile hg h), if_neg hplace.2,
    keepsOutside_scriptsOnly (hwrites.run_scriptsOnly hmade).2 place hplace.1]

/-- A script is read back as it was rendered, unless one behind it is written to the same place. -/
theorem read_projectFile {before after : List ProjectId} {p : ProjectId}
    (hsplit : projects = before ++ p :: after)
    (hbehind : scriptPlace s outputDir host.cwd p ∉ after.map (scriptPlace s outputDir host.cwd)) :
    ∃ text, (g.setting ⟨(g.scriptsOnly.run host s before outputDir).disk, host.cwd⟩).renderProject
        s p = .ok text ∧
      (g.run host s projects outputDir).disk.read host.cwd (projectFile outputDir (s.project p))
        = .ok text.toUTF8 := by
  have hlist := write_workspaceFile hg h
  obtain ⟨made, texts, hmade, hwrites, -⟩ := run_completed h
  -- Only the row of turns is split; the run itself stays the one on all projects.
  generalize (g.scriptsOnly.run host s projects outputDir).disk = last at hwrites hlist
  rw [hsplit] at hwrites
  obtain ⟨_, disk, text, disk', _, hbefore, hrender, hwrite, hafter⟩ := hwrites.split
  rw [(hbefore.run_scriptsOnly hmade).1]
  refine ⟨text, hrender, ?_⟩
  have hread := hafter.accessible.read (hafter.keepsOutside _ hbehind) (Disk.read_write hwrite)
  refine (Disk.accessible_write hlist).read ?_ hread
  rw [Disk.file?_write hlist]
  exact if_neg (locate_projectFile_ne outputDir host.cwd (s.project p))

/-- All that matters are the places that the names lead to. -/
theorem ownFiles_iff : g.OwnFiles host s projects outputDir ↔
    (projects.map (scriptPlace s outputDir host.cwd)).Nodup ∧
      ∀ p ∈ projects, ∃ entry,
        scriptPlace s outputDir host.cwd p = outputDir.locate host.cwd ++ [entry] := by
  have hwritten := written_eq hg h
  have hplaces := map_locate_written hg h
  constructor
  · intro hown
    have hdistinct := hown.distinct
    rw [hplaces] at hdistinct
    refine ⟨hdistinct.of_append_left, fun p hp => hown.inside _ ?_⟩
    rw [hwritten]
    exact List.mem_append_left _ (List.mem_map_of_mem hp)
  · rintro ⟨hdistinct, hinside⟩
    constructor
    case count =>
      rw [hwritten, List.length_append, List.length_map]
      rfl
    case distinct =>
      rw [hplaces, ← List.concat_eq_append, List.nodup_concat]
      exact ⟨workspacePlace_not_mem _ _ _ _, hdistinct⟩
    case inside =>
      intro file hfile
      rw [hwritten] at hfile
      rcases List.mem_append.mp hfile with hscript | hlast
      · obtain ⟨p, hp, rfl⟩ := List.mem_map.mp hscript
        exact hinside p hp
      · rw [List.mem_singleton.mp hlast]
        exact ⟨_, locate_workspaceFile outputDir host.cwd⟩
    case script =>
      intro before p after hsplit
      rw [hsplit, List.map_append, List.map_cons] at hdistinct
      exact read_projectFile hg h hsplit (List.nodup_cons.mp hdistinct.of_append_right).1
    case list => exact Disk.read_write (write_workspaceFile hg h)
    case others => exact run_keepsOutside hg h

end

/-! ## Names that are a single part -/

/-- Different names that are single parts have different places. -/
theorem nodup_scriptPlace (hnames : (projects.map fun p => (s.project p).name).Nodup)
    (hplain : ∀ p ∈ projects, '/' ∉ (s.project p).name.toList) :
    (projects.map (scriptPlace s outputDir cwd)).Nodup := by
  refine hnames.of_map.map_on fun p hp q hq hplace => ?_
  have hname : (s.project p).name = (s.project q).name :=
    name_eq_of_locate_eq (hplain p hp) (hplain q hq) hplace
  exact List.inj_on_of_nodup_map hnames hp hq hname

/-- **A run on a workspace leaves every script in a file of its own iff the names lead to different
places directly in the output directory**, and names that are single parts of a path do. -/
theorem run_ownFiles {root : Path} {defaultName : String} {document : Value} {w : Workspace}
    (hw : Workspace.ofValue root defaultName document = .ok w) (hg : g.writesWorkspace = true)
    (h : (g.run host w.store w.projects outputDir).failure = none) :
    (g.OwnFiles host w.store w.projects outputDir ↔
      (w.projects.map (scriptPlace w.store outputDir host.cwd)).Nodup ∧
        ∀ p ∈ w.projects, ∃ entry,
          scriptPlace w.store outputDir host.cwd p = outputDir.locate host.cwd ++ [entry]) ∧
    ((∀ p ∈ w.projects, '/' ∉ (w.store.project p).name.toList) →
      g.OwnFiles host w.store w.projects outputDir) := by
  have hiff := ownFiles_iff hg h
  refine ⟨hiff, fun hplain => hiff.mpr ⟨?_, fun p hp => ?_⟩⟩
  · exact nodup_scriptPlace (Workspace.nodup_names_of_ofValue hw) hplain
  · exact ⟨_, locate_projectFile (hplain p hp)⟩

end Generation

/-- An executable and the library that it depends on, as a document. -/
def Sample.pair : Value :=
  .table [("project", .list [
    .table [("name", .string "app"), ("dependencies", .list [.string "core"])],
    .table [("name", .string "core"), ("kind", .string "StaticLib"),
      ("configuration", .list [.table [("name", .string "Debug")]])]])]

theorem Generation.run_ownFiles_sample :
    ∃ w, Workspace.ofValue (.ofString "m") "workspace" Sample.pair = .ok w ∧
      ({} : Generation).OwnFiles ⟨.empty, []⟩ w.store w.projects (.ofString "build") := by
  have hany : ((Workspace.ofValue (.ofString "m") "workspace" Sample.pair).toOption.any
      fun w => decide ((∀ p ∈ w.projects, '/' ∉ (w.store.project p).name.toList) ∧
        (({} : Generation).run ⟨.empty, []⟩ w.store w.projects (.ofString "build")).failure
          = none)) = true := by
    decide
  obtain ⟨w, hw, hplain, h⟩ := exists_ok_of_any hany
  exact ⟨w, hw, (run_ownFiles hw rfl h).2 hplain⟩

/-- Two names that lead to one file. -/
def Sample.shared : Value :=
  .table [("project", .list [.table [("name", .string "a")], .table [("name", .string "./a")]])]

/-- A run may succeed and leave two projects with one script. -/
theorem Generation.run_sharedScript :
    ∃ w, Workspace.ofValue (.ofString ".") "workspace" Sample.shared = .ok w ∧
      (({} : Generation).run ⟨.empty, []⟩ w.store w.projects (.ofString "build")).failure = none ∧
      ¬ ((({} : Generation).run ⟨.empty, []⟩ w.store w.projects (.ofString "build")).written.map
        (·.locate [])).Nodup :=
  exists_ok_of_any (by decide)

end CMakeGen
