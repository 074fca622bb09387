import CMakeGen.Proofs.CommandLine.Escapes
import CMakeGen.Proofs.Disk.Tree
import CMakeGen.Proofs.Emission.OwnFiles

/-!
# What is announced is there

A command to generate says what it has done by the code that it ends with, by what it prints and by what
it leaves on the disk. **The three agree** (`run_oneStory`). It ends with 0 iff the model is there and
can be loaded, every project of it can be rendered and every script can be written, the one that includes
the others last. It then prints the files that it has written, in order, and each of them is there. If it
ends with 1 it prints nothing, and as long as there is no workspace it has not touched the disk.

A command has four stages, and where it stops decides all of this (`generate_stages`). Generating tells
nothing on its own, and only an outcome without a failure is put into words (`resultOf`), so there is
nothing that could be announced too early.

A command that ends with 1 has not finished the script that includes the others, but it may have changed
what stands in its place (`run_unlisted`). Where nothing stood, there may be a directory now, on the way to
an output directory that is written with `CMakeLists.txt/..` in it; and if the script could be opened and
there was no room for it, what it held before is lost. Nothing else can happen to it.
-/

namespace CMakeGen

/-! ## Runs to the end -/

namespace Generation

/-- Every project is rendered and its script written, each on the disk that those before it leave, and then
the script that includes them; `disk` is what is left. -/
def WritesAll (g : Generation) (host : Host) (s : Store) (projects : List ProjectId)
    (outputDir : Path) (disk : Disk) : Prop :=
  ∃ made texts scripts, host.disk.makeDirectories host.cwd outputDir = (made, none) ∧
    Writes g.setting s outputDir host.cwd made projects texts scripts ∧
    scripts.write host.cwd (workspaceFile outputDir)
      (renderWorkspace g.workspace s projects).toUTF8 = (disk, none)

/-- The scripts are written, and there is no room for the one that includes them: its file is opened, and
its text does not get there in full. -/
def RunsOutOfRoom (g : Generation) (host : Host) (s : Store) (projects : List ProjectId)
    (outputDir : Path) : Prop :=
  ∃ made texts scripts left, host.disk.makeDirectories host.cwd outputDir = (made, none) ∧
    Writes g.setting s outputDir host.cwd made projects texts scripts ∧
    scripts.write host.cwd (workspaceFile outputDir)
      (renderWorkspace g.workspace s projects).toUTF8 = (left, some .noSpace)

variable {g : Generation} {host : Host} {s : Store} {projects : List ProjectId} {outputDir : Path}
  {disk disk' : Disk} {texts : List String} {cwd : Location} {x : Host → Setting}

/-- A run does not fail iff it can go on to the end. -/
theorem writesAll_iff (hg : g.writesWorkspace = true) :
    g.WritesAll host s projects outputDir disk ↔
      (g.run host s projects outputDir).failure = none ∧
        (g.run host s projects outputDir).disk = disk := by
  constructor
  · intro h
    obtain ⟨made, texts, scripts, hmade, hwrites, hwrite⟩ := h
    obtain ⟨hdisk, hfailure, -⟩ := run_of_writes g hmade hwrites
    rw [hdisk, hfailure, writeWorkspace_of_ok hg hwrite]
    exact ⟨rfl, rfl⟩
  · intro h
    obtain ⟨hnone, rfl⟩ := h
    obtain ⟨made, texts, hmade, hwrites, -⟩ := run_completed hnone
    exact ⟨made, texts, _, hmade, hwrites, write_workspaceFile hg hnone⟩

/-- What has had its turn is there in the end. -/
theorem Writes.isFile (h : Writes x s outputDir cwd disk projects texts disk') {file : Path}
    (hfile : disk.isFile cwd file = .ok true ∨
      file ∈ projects.map fun p => projectFile outputDir (s.project p)) :
    disk'.isFile cwd file = .ok true := by
  induction h with
  | nil disk =>
    rcases hfile with hthere | hmem
    · exact hthere
    · cases hmem
  | cons _ write _ ih =>
    apply ih
    rcases hfile with hthere | hmem
    · exact .inl (Disk.isFile_of_write write hthere)
    · rcases List.mem_cons.mp hmem with rfl | hlater
      · exact .inl (Disk.isFile_write write)
      · exact .inr hlater

theorem isFile_of_mem_written (hg : g.writesWorkspace = true)
    (h : (g.run host s projects outputDir).failure = none) {file : Path}
    (hfile : file ∈ (g.run host s projects outputDir).written) :
    (g.run host s projects outputDir).disk.isFile host.cwd file = .ok true := by
  have hlast := write_workspaceFile hg h
  obtain ⟨made, texts, -, hwrites, -⟩ := run_completed h
  rw [written_eq hg h, List.mem_append, List.mem_singleton] at hfile
  rcases hfile with hscript | rfl
  · exact Disk.isFile_of_write hlast (hwrites.isFile (.inr hscript))
  · exact Disk.isFile_write hlast

/-! ## Runs that fail -/

variable {e : GenerateError}

/-- A run that fails changes no more than the scripts of the projects, unless there is no room for the one
that includes them. -/
theorem onlyMakesWay_of_failure (h : (g.run host s projects outputDir).failure = some e)
    (hroom : ¬ g.RunsOutOfRoom host s projects outputDir) :
    host.disk.OnlyMakesWay outputDir host.cwd (projects.map (scriptPlace s outputDir host.cwd))
      (g.run host s projects outputDir).disk := by
  rcases run_cases g host s projects outputDir with ⟨made, error, hmade⟩ | ⟨made, hmade, hcases⟩
  · have hway := Disk.onlyMakesWay_makeDirectories host.disk host.cwd outputDir
    rw [hmade] at hway
    rw [run_of_not_made hmade]
    exact hway.trans_node? (List.nil_subset _) fun _ _ => rfl
  rcases hcases with
    ⟨texts, disk, hwrites⟩ | ⟨before, p, after, texts, disk, e', left, rfl, hwrites, hrefuses⟩
  · obtain ⟨hdisk, hfailure, -⟩ := run_of_writes g hmade hwrites
    obtain ⟨-, error, -, hwrite⟩ := writeWorkspace_failed (hfailure.symm.trans h)
    have hopened : error ≠ .noSpace := by
      rintro rfl
      exact hroom ⟨made, texts, disk, _, hmade, hwrites, hwrite⟩
    rw [hdisk, Disk.write_eq_of_ne_noSpace hwrite hopened]
    exact hwrites.onlyMakesWay hmade
  · rw [(run_of_refuses hmade hwrites hrefuses after).2]
    refine (hrefuses.onlyMakesWay hmade hwrites).trans_node? ?_ fun _ _ => rfl
    rw [List.append_cons before p after]
    exact List.map_subset _ (List.subset_append_left _ _)

/-- There is room wherever the disk has it before the run. -/
theorem not_runsOutOfRoom
    (h : host.disk.full.lookup ((workspaceFile outputDir).locate host.cwd) = none) :
    ¬ g.RunsOutOfRoom host s projects outputDir := by
  rintro ⟨made, texts, scripts, left, hmade, hwrites, hwrite⟩
  have hfull := Disk.full_makeDirectories host.disk host.cwd outputDir
  rw [hmade] at hfull
  rcases Disk.write_cases scripts host.cwd (workspaceFile outputDir)
      (renderWorkspace g.workspace s projects).toUTF8 with
    ⟨e, he, heq⟩ | ⟨-, heq⟩ | ⟨room, -, hroom, -⟩
  · rw [hwrite] at heq
    cases heq
    exact he rfl
  · rw [hwrite] at heq
    cases heq
  · rw [hwrites.full_eq, hfull, h] at hroom
    cases hroom

end Generation

/-! ## The stages of a command -/

namespace CommandLine

open Workspace

variable {e : Environment} {model : String} {outputDir toolset : Option String} {code : Nat}

/-- The model is there and can be loaded. -/
def IsLoaded (e : Environment) (model : String) (w : Workspace) : Prop :=
  e.host.disk.pathExists e.host.cwd (.ofString model) = .ok true ∧
    load e.host (.ofString model) = .ok w

/-- The files of a workspace, in the order in which they are written. -/
def filesOf (w : Workspace) (directory : String) : List Path :=
  w.projects.map (fun p => Generation.projectFile (.ofString directory) (w.store.project p))
    ++ [Generation.workspaceFile (.ofString directory)]

def generated (files : List Path) : String :=
  String.join (files.map fun file => "Generated " ++ file.toString ++ "\n")

theorem exit_of_loadFailure {error : LoadError} (h : (loadFailure error).1 = .exit code) :
    code = 1 := by
  by_cases hdiagnosed : ∀ d, error ≠ .read (.diagnosed d)
  · rw [loadFailure_of_undiagnosed hdiagnosed] at h
    cases h
  · obtain ⟨d, hd⟩ := not_forall.mp hdiagnosed
    obtain rfl := not_not.mp hd
    cases h
    rfl

theorem exit_of_generateFailure {error : GenerateError}
    (h : (generateFailure error).1 = .exit code) : code = 1 := by
  cases error with
  | render error =>
    cases error <;> cases h
    rfl
  | disk error =>
    cases error <;> cases h <;> rfl
  | unimplemented => cases h

/-- A command that ends with a code has met no workspace, or has generated from one. -/
theorem generate_stages (h : (generate e model outputDir toolset).ending = .exit code) :
    (code = 1 ∧ (∀ w, ¬ IsLoaded e model w) ∧
        ∃ log, generate e model outputDir toolset = Result.quiet e (.exit 1) "" log) ∨
      ∃ w directory log, IsLoaded e model w ∧ outputDir = some directory ∧
        generate e model outputDir toolset
          = resultOf ((generation e w toolset).run e.host w.store w.projects (.ofString directory))
              log := by
  cases hthere : e.host.disk.pathExists e.host.cwd (.ofString model) with
  | error refusal =>
    rw [generate_of_refused hthere] at h
    cases h
  | ok found =>
    cases found with
    | false =>
      obtain ⟨message, heq⟩ := generate_eq_of_absent outputDir toolset hthere
      rw [heq] at h
      cases h
      refine .inl ⟨rfl, fun w hw => ?_, _, heq⟩
      rw [IsLoaded, hthere] at hw
      cases hw.1
    | true =>
      cases hload : load e.host (.ofString model) with
      | error error =>
        obtain ⟨earlier, heq⟩ := generate_eq_of_not_loaded outputDir toolset hthere hload
        have hending : (loadFailure error).1 = .exit code := (congrArg Result.ending heq).symm.trans h
        obtain rfl := exit_of_loadFailure hending
        rw [hending] at heq
        refine .inl ⟨rfl, fun w hw => ?_, _, heq⟩
        rw [IsLoaded, hload] at hw
        cases hw.2
      | ok w =>
        obtain ⟨log, heq⟩ := generate_of_loaded outputDir toolset hthere hload
        rw [heq] at h ⊢
        cases outputDir with
        | none => cases h
        | some directory =>
          exact .inr ⟨w, directory, log, ⟨hthere, hload⟩, rfl, generateLoaded_eq_resultOf _ _ _ _ _⟩

/-! ## Code, output and disk -/

/-- A workspace is loaded, and everything is generated from it; `disk` is what is left. -/
structure GeneratesAll (e : Environment) (model : String) (outputDir toolset : Option String)
    (w : Workspace) (directory : String) (disk : Disk) : Prop where
  loaded : IsLoaded e model w
  into : outputDir = some directory
  writes : (generation e w toolset).WritesAll e.host w.store w.projects (.ofString directory) disk

/-- What a command to generate tells its caller when it ends with a code. -/
structure OneStory (e : Environment) (model : String) (outputDir toolset : Option String)
    (code : Nat) (shown : Shown) : Prop where
  zeroOrOne : code = 0 ∨ code = 1
  /-- It ends with 0 iff there is a workspace and everything can be generated from it. -/
  zero : code = 0 ↔ ∃ w directory disk, GeneratesAll e model outputDir toolset w directory disk
  /-- Then this is what is left, the files that are written are announced, and they are there. -/
  announced : ∀ w directory disk, GeneratesAll e model outputDir toolset w directory disk →
    shown.disk = disk ∧ shown.written = filesOf w directory ∧
    shown.stdout = generated (filesOf w directory) ∧
    ∀ file ∈ filesOf w directory, shown.disk.isFile e.host.cwd file = .ok true
  silent : code = 1 → shown.stdout = ""
  /-- What stands in the place of the script that includes the others is then what stood there, or a
  directory on the way to the output directory, unless there was no room for the script. -/
  unlisted : code = 1 → ∀ directory, outputDir = some directory →
    (∀ w, IsLoaded e model w →
      ¬ (generation e w toolset).RunsOutOfRoom e.host w.store w.projects (.ofString directory)) →
    Disk.KeptOrMade (.ofString directory) e.host.cwd e.host.disk shown.disk
      ((Generation.workspaceFile (.ofString directory)).locate e.host.cwd)
  /-- As long as there is no workspace, nothing is touched. -/
  untouched : (∀ w, ¬ IsLoaded e model w) → shown.disk = e.host.disk ∧ shown.written = []

variable {w : Workspace} {directory : String} {disk : Disk}

/-- There is one workspace and one directory, and what is left is what the run leaves. -/
theorem GeneratesAll.run_eq {w' : Workspace} {directory' : String}
    (h : GeneratesAll e model (some directory) toolset w' directory' disk)
    (hloaded : IsLoaded e model w) :
    w' = w ∧ directory' = directory ∧
      ((generation e w toolset).run e.host w.store w.projects (.ofString directory)).failure = none ∧
      ((generation e w toolset).run e.host w.store w.projects (.ofString directory)).disk
        = disk := by
  obtain rfl : w' = w := Except.ok.inj (h.loaded.2.symm.trans hloaded.2)
  obtain rfl : directory' = directory := (Option.some.inj h.into).symm
  exact ⟨rfl, rfl, (Generation.writesAll_iff rfl).mp h.writes⟩

/-- Where there is no workspace, there is nothing to tell. -/
theorem oneStory_of_not_loaded (hnone : ∀ w, ¬ IsLoaded e model w) (log : List Log.Entry)
    (verbosity : Log.Verbosity) :
    OneStory e model outputDir toolset 1 ((Result.quiet e (.exit 1) "" log).shown verbosity) where
  zeroOrOne := .inr rfl
  zero := by
    constructor
    · intro h
      cases h
    · intro h
      obtain ⟨w, directory, disk, hall⟩ := h
      exact absurd hall.loaded (hnone w)
  announced w directory disk hall := absurd hall.loaded (hnone w)
  silent _ := rfl
  unlisted _ _ _ _ := .inl rfl
  untouched _ := ⟨rfl, rfl⟩

section

variable (hloaded : IsLoaded e model w) (log : List Log.Entry) (verbosity : Log.Verbosity)

include hloaded

/-- What is generated is told in full. -/
theorem oneStory_of_done
    (h : ((generation e w toolset).run e.host w.store w.projects (.ofString directory)).failure
      = none) :
    OneStory e model (some directory) toolset 0
      ((resultOf ((generation e w toolset).run e.host w.store w.projects (.ofString directory))
        log).shown verbosity) := by
  have hwritten : ((generation e w toolset).run e.host w.store w.projects
      (.ofString directory)).written = filesOf w directory := Generation.written_eq rfl h
  rw [resultOf_of_done h]
  constructor
  case zeroOrOne => exact .inl rfl
  case zero =>
    have hwrites := (Generation.writesAll_iff rfl).mpr ⟨h, rfl⟩
    exact iff_of_true rfl ⟨w, directory, _, hloaded, rfl, hwrites⟩
  case announced =>
    intro w' directory' disk hall
    obtain ⟨rfl, rfl, -, hdisk⟩ := hall.run_eq hloaded
    refine ⟨hdisk, hwritten, ?_, ?_⟩
    · rw [← hwritten]
      rfl
    · intro file hfile
      rw [← hwritten] at hfile
      exact Generation.isFile_of_mem_written rfl h hfile
  case untouched =>
    intro hnone
    exact absurd hloaded (hnone w)
  all_goals
    intro hone
    cases hone

/-- What fails is not told, however far it came. -/
theorem oneStory_of_failure {error : GenerateError}
    (h : ((generation e w toolset).run e.host w.store w.projects (.ofString directory)).failure
      = some error) (hexit : (generateFailure error).1 = .exit 1) :
    OneStory e model (some directory) toolset 1
      ((resultOf ((generation e w toolset).run e.host w.store w.projects (.ofString directory))
        log).shown verbosity) := by
  have hnot (w' : Workspace) (directory' : String) (disk : Disk) :
      ¬ GeneratesAll e model (some directory) toolset w' directory' disk := by
    intro hall
    obtain ⟨rfl, rfl, hnone, -⟩ := hall.run_eq hloaded
    rw [hnone] at h
    cases h
  rw [resultOf_of_failure h, hexit]
  constructor
  case zeroOrOne => exact .inr rfl
  case zero =>
    constructor
    · intro hzero
      cases hzero
    · intro hall
      obtain ⟨w', directory', disk, hall⟩ := hall
      exact absurd hall (hnot w' directory' disk)
  case announced =>
    intro w' directory' disk hall
    exact absurd hall (hnot w' directory' disk)
  case silent =>
    intro _
    rfl
  case unlisted =>
    intro _ directory' hinto hroom
    cases hinto
    exact Generation.onlyMakesWay_of_failure h (hroom w hloaded) _
      (Generation.workspacePlace_not_mem _ _ _ _)
  case untouched =>
    intro hnone
    exact absurd hloaded (hnone w)

theorem oneStory_of_loaded
    (h : (resultOf ((generation e w toolset).run e.host w.store w.projects (.ofString directory))
      log).ending = .exit code) :
    OneStory e model (some directory) toolset code
      ((resultOf ((generation e w toolset).run e.host w.store w.projects (.ofString directory))
        log).shown verbosity) := by
  cases hfailure :
      ((generation e w toolset).run e.host w.store w.projects (.ofString directory)).failure with
  | none =>
    rw [resultOf_of_done hfailure] at h
    cases h
    exact oneStory_of_done hloaded log verbosity hfailure
  | some error =>
    rw [resultOf_of_failure hfailure] at h
    obtain rfl := exit_of_generateFailure h
    exact oneStory_of_failure hloaded log verbosity hfailure h

end

/-- **Exit code, standard output and disk tell the same story**, whichever stage a command to generate
comes to. -/
theorem run_oneStory {arguments : List String} {verbosity : Log.Verbosity}
    (hread : readArguments arguments = .ok (.run verbosity (.generate model outputDir toolset)))
    (h : (run e arguments).ending = .exit code) :
    OneStory e model outputDir toolset code (run e arguments) := by
  rw [run_of_read hread] at h ⊢
  rcases generate_stages h with ⟨rfl, hnone, log, heq⟩ | ⟨w, directory, log, hloaded, rfl, heq⟩
  · show OneStory e model outputDir toolset 1 ((generate e model outputDir toolset).shown verbosity)
    rw [heq]
    exact oneStory_of_not_loaded hnone log verbosity
  · have hending : (generate e model (some directory) toolset).ending = .exit code := h
    show OneStory e model (some directory) toolset code
      ((generate e model (some directory) toolset).shown verbosity)
    rw [heq] at hending ⊢
    exact oneStory_of_loaded hloaded log verbosity hending

/-- A model of one project, and nothing else on the disk. -/
def Sample.modest : Environment where
  host := ⟨.place .empty [⟨"m.toml", by decide⟩] (.file "[[project]]\nname=\"a\"".toUTF8), []⟩
  toolset := none

/-- A run that writes two files, and one that finds a file where the output directory should be. -/
theorem run_oneStory_sample :
    (∃ w directory disk,
        GeneratesAll Sample.modest "m.toml" (some "build") none w directory disk) ∧
      (run Sample.modest ["generate", "m.toml", "-B", "m.toml"]).stdout = "" ∧
      Disk.KeptOrMade (.ofString "m.toml") [] Sample.modest.host.disk
        (run Sample.modest ["generate", "m.toml", "-B", "m.toml"]).disk
        ((Generation.workspaceFile (.ofString "m.toml")).locate []) := by
  have hread : readArguments ["generate", "m.toml"]
      = .ok (.run .quiet (.generate "m.toml" (some "build") none)) := by decide
  have hzero : (run Sample.modest ["generate", "m.toml"]).ending = .exit 0 := by decide +kernel
  have hread' : readArguments ["generate", "m.toml", "-B", "m.toml"]
      = .ok (.run .quiet (.generate "m.toml" (some "m.toml") none)) := by decide +kernel
  have hone : (run Sample.modest ["generate", "m.toml", "-B", "m.toml"]).ending = .exit 1 := by
    decide +kernel
  have hstory := run_oneStory hread' hone
  refine ⟨(run_oneStory hread hzero).zero.mp rfl, hstory.silent rfl, ?_⟩
  exact hstory.unlisted rfl "m.toml" rfl fun _ _ => Generation.not_runsOutOfRoom rfl

/-- The same with an older script that includes the others, where there is room for three bytes. -/
def Sample.cramped : Environment :=
  let place := (Path.ofString "build/CMakeLists.txt").locate []
  let disk := Sample.modest.host.disk.place place (.file "old".toUTF8)
  { Sample.modest with host := ⟨{ disk with full := [(place, 3)] }, []⟩ }

/-- A run that ends with 1 may leave a directory in the place of the script that includes the others, where
nothing stood, and it may leave less of it than there was. -/
theorem run_unlisted :
    (let shown := run Sample.modest ["generate", "m.toml", "-B", "build/CMakeLists.txt/.."]
     shown.ending = .exit 1 ∧
        Sample.modest.host.disk.pathExists [] (.ofString "build/CMakeLists.txt") = .ok false ∧
        shown.disk.isDirectory [] (.ofString "build/CMakeLists.txt") = .ok true) ∧
    (let shown := run Sample.cramped ["generate", "m.toml"]
     let file := Path.ofString "build/CMakeLists.txt"
     shown.ending = .exit 1 ∧
        Sample.cramped.host.disk.read [] file = .ok "old".toUTF8 ∧
        shown.disk.read [] file = .ok "cma".toUTF8) := by
  decide +kernel

end CommandLine

end CMakeGen
