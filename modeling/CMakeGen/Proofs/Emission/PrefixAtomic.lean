import CMakeGen.Proofs.Emission.Generation
import CMakeGen.Proofs.Script.Includes

/-!
# A run that fails is a shorter run

Generating fails at the first project that cannot be rendered or written, and then **the disk is the
one that the projects before it leave when they are generated alone**. Nothing of the project that
failed gets there, nor of those behind it, nor of the script that includes them all. Rendering looks
for files on the disk, so this is not a matter of the order of the writes alone: the project has to
meet the very disk that the shorter run leaves.

There are two exceptions (`run_exceptions`). A file that was opened and that there is no room for is
not what it was, since opening it emptied it; whatever is left of it, everything else is as the shorter
run leaves it. And where nothing stood, a directory may stand in the place of the script that includes
the others, if the way to the output directory is written so that it leads through there.

A run that does not fail has put every script and the list of them where they belong, and the list
names the scripts that were written.
-/

namespace CMakeGen

namespace Generation

section

variable (g : Generation) (host : Host) (s : Store) (projects : List ProjectId) (outputDir : Path)

/-- The file that includes the others and its text, if it is wanted. -/
def listing : List (Path × String) :=
  if g.writesWorkspace then
    [(workspaceFile outputDir, renderWorkspace g.workspace s projects)]
  else []

/-- What a run leaves behind, whichever way it ends. -/
structure PrefixAtomic : Prop where
  /-- The first project that is refused ends the run. What is left is what the projects before it leave,
  unless its file was opened; then that is so but for this file. -/
  refused : ∀ before p after e left, projects = before ++ p :: after →
    (g.scriptsOnly.run host s before outputDir).failure = none →
    Refuses g.setting s outputDir host.cwd (g.scriptsOnly.run host s before outputDir).disk p e
      left →
      (g.run host s projects outputDir).failure = some e ∧
      (g.run host s projects outputDir).disk = left ∧
      (e ≠ .disk .noSpace → left = (g.scriptsOnly.run host s before outputDir).disk) ∧
      (∀ place, place ≠ scriptPlace s outputDir host.cwd p →
        left.node? place = (g.scriptsOnly.run host s before outputDir).disk.node? place) ∧
      host.disk.OnlyMakesWay outputDir host.cwd
        ((before ++ [p]).map (scriptPlace s outputDir host.cwd)) left ∧
      (workspaceFile outputDir).locate host.cwd
        ∉ (before ++ [p]).map (scriptPlace s outputDir host.cwd)
  /-- If the list of the scripts is refused, all scripts stand, and unless its file was opened it is
  what it was. -/
  unlisted : ∀ error left, g.writesWorkspace = true →
    (g.scriptsOnly.run host s projects outputDir).failure = none →
    (g.scriptsOnly.run host s projects outputDir).disk.write host.cwd (workspaceFile outputDir)
        (renderWorkspace g.workspace s projects).toUTF8 = (left, some error) →
      (g.run host s projects outputDir).failure = some (.disk error) ∧
      (g.run host s projects outputDir).disk = left ∧
      (error ≠ .noSpace → left = (g.scriptsOnly.run host s projects outputDir).disk) ∧
      (∀ place, place ≠ (workspaceFile outputDir).locate host.cwd →
        left.node? place = (g.scriptsOnly.run host s projects outputDir).disk.node? place) ∧
      host.disk.OnlyMakesWay outputDir host.cwd (projects.map (scriptPlace s outputDir host.cwd))
        (g.scriptsOnly.run host s projects outputDir).disk ∧
      (workspaceFile outputDir).locate host.cwd ∉ projects.map (scriptPlace s outputDir host.cwd)
  /-- Nothing else makes a run fail, unless the directory cannot be made. -/
  failed : ∀ e, (g.run host s projects outputDir).failure = some e →
    (∃ made error, host.disk.makeDirectories host.cwd outputDir = (made, some error) ∧
      e = .disk error ∧ (g.run host s projects outputDir).disk = made ∧
      host.disk.OnlyMakesWay outputDir host.cwd [] made) ∨
    (∃ before p after left, projects = before ++ p :: after ∧
      (g.scriptsOnly.run host s before outputDir).failure = none ∧
      Refuses g.setting s outputDir host.cwd
        (g.scriptsOnly.run host s before outputDir).disk p e left) ∨
    ∃ error left, e = .disk error ∧ g.writesWorkspace = true ∧
      (g.scriptsOnly.run host s projects outputDir).failure = none ∧
      (g.scriptsOnly.run host s projects outputDir).disk.write host.cwd (workspaceFile outputDir)
        (renderWorkspace g.workspace s projects).toUTF8 = (left, some error)
  /-- A run that does not fail has written every script as it was rendered at its turn, and then
  the list of them. -/
  completed : (g.run host s projects outputDir).failure = none →
    ∃ made texts, host.disk.makeDirectories host.cwd outputDir = (made, none) ∧
      host.disk.OnlyMakesWay outputDir host.cwd [] made ∧
      Writes g.setting s outputDir host.cwd made projects texts
        (g.scriptsOnly.run host s projects outputDir).disk ∧
      (g.run host s projects outputDir).disk = made.putFiles host.cwd
        ((projects.map fun p => projectFile outputDir (s.project p)).zip texts
          ++ g.listing s projects outputDir) ∧
      (g.run host s projects outputDir).written
        = (projects.map fun p => projectFile outputDir (s.project p))
          ++ (g.listing s projects outputDir).map (·.1)
  /-- The list names the scripts, in order. -/
  listed : ∃ names, Script.includes? (renderWorkspace g.workspace s projects) = some names ∧
    names.map (fun name => outputDir.join (.ofString name))
      = projects.map fun p => projectFile outputDir (s.project p)

end

/-- **A run that fails leaves what the projects before the failure leave alone, and a run that does
not fail leaves every script and the list of them.** -/
theorem run_prefixAtomic (g : Generation) (host : Host) (s : Store) (projects : List ProjectId)
    (outputDir : Path) : g.PrefixAtomic host s projects outputDir where
  refused before p after e left hsplit hbefore hrefuses := by
    obtain ⟨made, texts, hmade, hwrites⟩ := writes_of_run_scriptsOnly hbefore
    obtain ⟨hfailure, hdisk⟩ := run_of_refuses hmade hwrites hrefuses after
    rw [hsplit, hfailure, hdisk]
    exact ⟨rfl, rfl, hrefuses.left_eq, fun _ => hrefuses.node?_eq,
      hrefuses.onlyMakesWay hmade hwrites, workspacePlace_not_mem _ _ _ _⟩
  unlisted error left hw halone hwrite := by
    obtain ⟨made, texts, hmade, hwrites⟩ := writes_of_run_scriptsOnly halone
    obtain ⟨hdisk, hfailure, -⟩ := run_of_writes g hmade hwrites
    rw [writeWorkspace_of_error hw hwrite] at hdisk hfailure
    rw [hfailure, hdisk]
    refine ⟨rfl, rfl, Disk.write_eq_of_ne_noSpace hwrite, fun place hplace => ?_,
      hwrites.onlyMakesWay hmade, workspacePlace_not_mem _ _ _ _⟩
    have hnode := Disk.node?_write_of_ne (g.scriptsOnly.run host s projects outputDir).disk host.cwd
      (workspaceFile outputDir) (renderWorkspace g.workspace s projects).toUTF8 hplace
    rwa [hwrite] at hnode
  failed e h := by
    rcases run_cases g host s projects outputDir with
      ⟨made, error, hmade⟩ | ⟨made, hmade, hcases⟩
    · have hway := Disk.onlyMakesWay_makeDirectories host.disk host.cwd outputDir
      rw [run_of_not_made hmade] at h ⊢
      rw [hmade] at hway
      exact .inl ⟨made, error, hmade, (Option.some.inj h).symm, rfl, hway⟩
    rcases hcases with
      ⟨texts, disk, hwrites⟩ | ⟨before, p, after, texts, disk, e', left, rfl, hwrites, hrefuses⟩
    · -- All scripts are written, so it was the list of them.
      obtain ⟨-, hfailure, -⟩ := run_of_writes g hmade hwrites
      obtain ⟨halone, hnone⟩ := hwrites.run_scriptsOnly hmade
      obtain ⟨hw, error, herror, hwrite⟩ := writeWorkspace_failed (hfailure.symm.trans h)
      rw [← halone] at hwrite
      exact .inr (.inr ⟨error, _, herror, hw, hnone, hwrite⟩)
    · obtain ⟨halone, hnone⟩ := hwrites.run_scriptsOnly hmade
      rw [(run_of_refuses hmade hwrites hrefuses after).1] at h
      cases h
      refine .inr (.inl ⟨before, p, after, left, rfl, hnone, ?_⟩)
      rw [halone]
      exact hrefuses
  completed h := by
    obtain ⟨made, texts, hmade, hwrites, hdisk, hfailure, hwritten⟩ := run_completed h
    have hway := Disk.onlyMakesWay_makeDirectories host.disk host.cwd outputDir
    rw [hmade] at hway
    refine ⟨made, texts, hmade, hway, hwrites, ?_⟩
    rw [hdisk, hwritten, Disk.putFiles_append, ← hwrites.disk_eq]
    cases hw : g.writesWorkspace with
    | false =>
      rw [writeWorkspace_of_not hw, listing, hw]
      exact ⟨rfl, rfl⟩
    | true =>
      obtain ⟨hwrite, hlast⟩ := writeWorkspace_completed hw hfailure
      obtain ⟨-, hput⟩ := Disk.write_eq_none_iff.mp hwrite
      rw [hlast, listing, hw]
      exact ⟨hput, rfl⟩
  listed := by
    refine ⟨_, Script.includes?_renderWorkspace g.workspace s projects, ?_⟩
    rw [List.map_map]
    rfl

end Generation

/-- Three projects, and nobody knows the toolset of the second one. -/
def Sample.broken : Store where
  projects := [{ name := "core" }, { name := "app", configurations := [⟨0⟩] }, { name := "tool" }]
  configurations := [⟨{ name := "Debug", toolset := some "nope" }, some ⟨1⟩⟩]

def Sample.breakage : GenerateError :=
  .render (.diagnosed ⟨.unknownToolset "nope", some "project 'app', configuration 'Debug'"⟩)

theorem Generation.run_prefixAtomic_sample :
    (({} : Generation).run ⟨.empty, []⟩ Sample.broken [⟨0⟩, ⟨1⟩, ⟨2⟩] (.ofString "build")).failure
        = some Sample.breakage ∧
      (({} : Generation).run ⟨.empty, []⟩ Sample.broken [⟨0⟩, ⟨1⟩, ⟨2⟩] (.ofString "build")).disk
        = (({} : Generation).scriptsOnly.run ⟨.empty, []⟩ Sample.broken [⟨0⟩]
          (.ofString "build")).disk := by
  have hrun := run_prefixAtomic {} ⟨.empty, []⟩ Sample.broken [⟨0⟩, ⟨1⟩, ⟨2⟩] (.ofString "build")
  obtain ⟨hfailure, hdisk, hleft, -⟩ :=
    hrun.refused [⟨0⟩] ⟨1⟩ [⟨2⟩] Sample.breakage _ rfl (by decide) (.render (by decide))
  exact ⟨hfailure, hdisk.trans (hleft nofun)⟩

/-- A project, and a disk that holds an older script of it and has room for three bytes there. -/
def Sample.crowded : Host :=
  let place := (Path.ofString "build/a.cmake").locate []
  ⟨{ Disk.empty.place place (.file "old".toUTF8) with full := [(place, 3)] }, []⟩

def Sample.lone : Store where
  projects := [{ name := "a" }]
  configurations := []

/-- Writing the list of the scripts fails and leaves a directory where nothing stood, and writing a
script fails and leaves it shorter than the run on no project does. -/
theorem Generation.run_exceptions :
    (let outputDir := Path.ofString "build/CMakeLists.txt/.."
      let place := (workspaceFile outputDir).locate []
      let o := ({} : Generation).run ⟨.empty, []⟩ Sample.lone [⟨0⟩] outputDir
      o.failure = some (.disk (.fault .isDirectory (workspaceFile outputDir))) ∧
        Disk.empty.node? place = none ∧ o.disk.node? place = some .directory) ∧
    (let place := (Path.ofString "build/a.cmake").locate []
      let o := ({} : Generation).run Sample.crowded Sample.lone [⟨0⟩] (.ofString "build")
      let shorter := ({} : Generation).scriptsOnly.run Sample.crowded Sample.lone [] (.ofString "build")
      o.failure = some (.disk .noSpace) ∧
        shorter.disk.file? place = some "old".toUTF8 ∧ o.disk.file? place = some "add".toUTF8) := by
  refine ⟨⟨by decide, rfl, rfl⟩, by decide, by decide, by decide⟩

end CMakeGen
