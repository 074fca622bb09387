import CMakeGen.Proofs.CommandLine.Escapes
import CMakeGen.Proofs.Disk.Tree
import CMakeGen.Proofs.Emission.Retooled
import CMakeGen.Proofs.Workspace.Retooled

/-!
# Choosing one toolset

A toolset for all configurations can be chosen by an option, by the environment, or by writing it into
the model. **All three are the same** (`run_one_toolset`): the same files are written with the same
contents, the run ends in the same way and prints the same, and if it fails it fails for the same reason
(`failure?`, which `ending_of_failure?` ties to the way in which a run ends).

The option and the environment meet in `toolsetOverride`, and nothing else of a run looks at either
(`generate_congr`). The model is another matter, since it is a file on the disk that scripts are written
to: the two runs go on in step (`Generation.run_retool`), on disks that differ in the model, until it is
overwritten. All that tells them apart is that an override is announced in the log.
-/

namespace CMakeGen

theorem Log.render_cons (verbosity : Log.Verbosity) (entry : Log.Entry) (entries : List Log.Entry) :
    Log.render verbosity (entry :: entries)
      = Log.render verbosity [entry] ++ Log.render verbosity entries := by
  unfold Log.render
  rw [← List.singleton_append, List.filter_append, List.map_append]
  simp

namespace CommandLine

/-! ## The override -/

/-- No toolset is asked for. -/
def Silent (toolset : Option String) : Prop := toolset = none ∨ toolset = some ""

section

variable {argument environment : Option String} {t : String}

theorem Silent.filter_eq (h : Silent argument) : argument.filter (· ≠ "") = none := by
  rcases h with rfl | rfl <;> rfl

theorem toolsetOverride_of_argument (ht : t ≠ "") (environment : Option String) :
    toolsetOverride (some t) environment = some t := by
  simp [toolsetOverride, Option.filter_some, ht]

theorem toolsetOverride_of_environment (h : Silent argument) (ht : t ≠ "") :
    toolsetOverride argument (some t) = some t := by
  rw [toolsetOverride, h.filter_eq]
  simp [Option.filter_some, ht]

theorem toolsetOverride_of_silent (h : Silent argument) (h' : Silent environment) :
    toolsetOverride argument environment = none := by
  rw [toolsetOverride, h.filter_eq, h'.filter_eq]
  rfl

end

variable {host : Host} {model t : String} {outputDir toolset toolset' : Option String}

/-- What a generation from a model fails with, if the model is there and it fails. -/
def failure? (e : Environment) (model : String) (outputDir toolset : Option String) :
    Option Failure :=
  match Workspace.load e.host (.ofString model) with
  | .error error => some (.ofLoad error)
  | .ok w =>
    match outputDir with
    | none => some .noOutputDir
    | some directory =>
      ((generation e w toolset).run e.host w.store w.projects (.ofString directory)).failure.map
        .ofGenerate

/-- A generation from a model that is there fails with its failure, and otherwise ends with 0. -/
theorem ending_of_failure? {e : Environment}
    (there : e.host.disk.pathExists e.host.cwd (.ofString model) = .ok true) :
    (failure? e model outputDir toolset = none ∧
        (generate e model outputDir toolset).ending = .exit 0) ∨
      ∃ f, failure? e model outputDir toolset = some f ∧
        ((generate e model outputDir toolset).ending = .exit 1 ∨
          (generate e model outputDir toolset).ending = .broken f) := by
  unfold failure?
  cases hload : Workspace.load e.host (.ofString model) with
  | error error =>
    rw [(generate_of_not_loaded outputDir toolset there hload).1]
    refine .inr ⟨_, rfl, ?_⟩
    unfold loadFailure
    split
    · exact .inl rfl
    · exact .inr rfl
  | ok w =>
    obtain ⟨log, hgenerate⟩ := generate_of_loaded outputDir toolset there hload
    rw [hgenerate]
    cases outputDir with
    | none => exact .inr ⟨_, rfl, .inr rfl⟩
    | some directory =>
      dsimp only
      cases hfailure :
          ((generation e w toolset).run e.host w.store w.projects (.ofString directory)).failure with
      | none => exact .inl ⟨rfl, generateLoaded_of_done log hfailure⟩
      | some error =>
        rw [(generateLoaded_of_failure log hfailure).1]
        refine .inr ⟨_, rfl, ?_⟩
        unfold generateFailure
        split
        · exact .inl rfl
        · exact .inl rfl
        · exact .inl rfl
        · exact .inr rfl

/-- A generation looks at the option and at the environment through the override alone. -/
theorem generate_congr {environment environment' : Option String}
    (h : toolsetOverride toolset' environment' = toolsetOverride toolset environment) :
    generate ⟨host, environment'⟩ model outputDir toolset'
      = generate ⟨host, environment⟩ model outputDir toolset := by
  unfold generate
  rw [h]
  rfl

theorem failure?_congr {environment environment' : Option String}
    (h : toolsetOverride toolset' environment' = toolsetOverride toolset environment) :
    failure? ⟨host, environment'⟩ model outputDir toolset'
      = failure? ⟨host, environment⟩ model outputDir toolset := by
  unfold failure? generation
  rw [h]

/-! ## The model -/

/-- The entry that reports an override. -/
def announcement (identifier : String) : Log.Entry :=
  ⟨.info, .commandLine, "Using toolset override " ++ identifier⟩

/-- The results are the same, but for the announcement and what is left of the models. -/
structure Result.Matches (place cwd : Location) (t : String) (r r' : Result) : Prop where
  ending : r'.ending = r.ending
  output : r'.output = r.output
  written : r'.written = r.written
  log : r.log = announcement t :: r'.log
  disk : Disk.DifferWithin (fun q => q = place ∧ ∀ file ∈ r.written, q ≠ file.locate cwd)
    r.disk r'.disk

theorem quiet_matches {place : Location} {disk : Disk}
    (h : Disk.DifferWithin (· = place) host.disk disk) (environment environment' : Option String)
    (ending : Ending) (log : List Log.Entry) :
    Result.Matches place host.cwd t
      (Result.quiet ⟨host, environment⟩ ending "" (announcement t :: log))
      (Result.quiet ⟨⟨disk, host.cwd⟩, environment'⟩ ending "" log) where
  ending := rfl
  output := rfl
  written := rfl
  log := rfl
  disk := h.mono fun _ hplace => ⟨hplace, fun _ hfile => absurd hfile List.not_mem_nil⟩

theorem resultOf_matches {place cwd : Location} {o o' : Outcome}
    (h : Outcome.Matches (· = place) cwd o o') (log : List Log.Entry) :
    Result.Matches place cwd t (resultOf o (announcement t :: log)) (resultOf o' log) := by
  obtain ⟨hfailure, hwritten, hlog, hdisk⟩ := h
  unfold resultOf
  rw [hfailure, hwritten, hlog]
  cases o.failure with
  | none => exact ⟨rfl, rfl, rfl, rfl, hdisk⟩
  | some error => exact ⟨rfl, rfl, rfl, rfl, hdisk⟩

section

variable {disk : Disk} {w : Workspace}
  (h : Disk.DifferWithin (· = (Path.ofString model).locate host.cwd) host.disk disk) (ht : t ≠ "")
  (hs : w.store.Coherent)

include h ht hs

/-- What is generated from a loaded model, with the override and with the toolset in the model. -/
theorem run_retool_matches (directory : String) :
    Outcome.Matches (· = (Path.ofString model).locate host.cwd) host.cwd
      (Generation.run { workspace := some w.name, override := some t } host w.store w.projects
        (.ofString directory))
      (Generation.run { workspace := some w.name, override := none } ⟨disk, host.cwd⟩
        (w.store.retool t) w.projects (.ofString directory)) :=
  Generation.run_retool (g := { workspace := some w.name, override := some t }) ht rfl
    (fun _ hfound => Registry.ignoresChoice_of_standard hfound) hs h w.projects (.ofString directory)

theorem generateLoaded_matches (environment environment' outputDir : Option String)
    (log : List Log.Entry) :
    Result.Matches ((Path.ofString model).locate host.cwd) host.cwd t
      (generateLoaded ⟨host, environment⟩ w (some t) outputDir (announcement t :: log))
      (generateLoaded ⟨⟨disk, host.cwd⟩, environment'⟩ (w.retool t) none outputDir log) := by
  cases outputDir with
  | none => exact quiet_matches h environment environment' _ log
  | some directory =>
    rw [generateLoaded_eq_resultOf, generateLoaded_eq_resultOf]
    exact resultOf_matches (run_retool_matches h ht hs directory) log

end

/-! ## Models on the disk -/

/-- The disk of the host with another document for the model: the one in which every configuration asks
for the toolset. -/
def ModelRetooled (host : Host) (model t : String) (disk : Disk) : Prop :=
  ∃ text table text' table', host.disk.read host.cwd (.ofString model) = .ok text.toUTF8 ∧
    Toml.read text = .ok table ∧ Toml.read text' = .ok table' ∧ Workspace.Retooled t table table' ∧
    disk = host.disk.put ((Path.ofString model).locate host.cwd) (.file text'.toUTF8)

section

variable {disk : Disk} (h : ModelRetooled host model t disk)

include h

theorem ModelRetooled.differWithin :
    Disk.DifferWithin (· = (Path.ofString model).locate host.cwd) host.disk disk := by
  obtain ⟨text, table, text', table', hread, -, -, -, rfl⟩ := h
  exact Disk.differWithin_of_put hread _

/-- Neither model is loaded, for the same reason, or both are. -/
theorem ModelRetooled.load_cases :
    (∃ error, Workspace.load host (.ofString model) = .error error ∧
        Workspace.load ⟨disk, host.cwd⟩ (.ofString model) = .error error) ∨
      ∃ w, Workspace.load host (.ofString model) = .ok w ∧
        Workspace.load ⟨disk, host.cwd⟩ (.ofString model) = .ok (w.retool t) ∧
        w.store.Coherent := by
  obtain ⟨text, table, text', table', hread, hparse, hparse', hretooled, rfl⟩ := h
  have hread' := (Disk.canOpen_of_read hread).read_put text'.toUTF8
  rw [Workspace.load_of_table hread hparse, Workspace.load_of_table hread' hparse']
  rcases (Workspace.ofValue_retooled hretooled (Path.ofString model).parent
    (Path.ofString model).stem).tell with ⟨e, hfound, hfound'⟩ | ⟨w, _, rfl, hfound, hfound'⟩
  · rw [hfound, hfound']
    exact .inl ⟨_, rfl, rfl⟩
  · rw [hfound, hfound']
    exact .inr ⟨w, rfl, rfl, Workspace.ofValue_coherent hfound⟩

theorem ModelRetooled.pathExists :
    host.disk.pathExists host.cwd (.ofString model) = .ok true := by
  obtain ⟨text, table, text', table', hread, -⟩ := h
  obtain ⟨hnull, hfind, hfile⟩ := Disk.read_eq_ok_iff.mp hread
  refine Disk.ask_eq_true_iff.mpr ⟨hnull, hfind, ?_⟩
  unfold Disk.file? at hfile
  split at hfile
  · next contents hnode => exact ⟨_, hnode, rfl⟩
  · cases hfile

variable {environment environment' : Option String} (ht : t ≠ "")
  (hoverride : toolsetOverride toolset environment = some t)
  (hnone : toolsetOverride toolset' environment' = none)

include ht hoverride hnone

/-- With the override on the one disk and without it on the other, the same is generated. -/
theorem generate_matches (outputDir : Option String) :
    Result.Matches ((Path.ofString model).locate host.cwd) host.cwd t
      (generate ⟨host, environment⟩ model outputDir toolset)
      (generate ⟨⟨disk, host.cwd⟩, environment'⟩ model outputDir toolset') := by
  have hdisk := h.differWithin
  unfold generate
  dsimp only
  rw [hdisk.pathExists_eq, h.pathExists, hoverride, hnone]
  dsimp only
  rcases h.load_cases with ⟨error, hload, hload'⟩ | ⟨w, hload, hload', hs⟩
  · rw [hload, hload']
    exact quiet_matches hdisk environment environment' _ _
  · rw [hload, hload']
    exact generateLoaded_matches hdisk ht hs environment environment' outputDir [loaded w]

theorem failure?_retool (outputDir : Option String) :
    failure? ⟨⟨disk, host.cwd⟩, environment'⟩ model outputDir toolset'
      = failure? ⟨host, environment⟩ model outputDir toolset := by
  unfold failure? generation
  dsimp only
  rw [hoverride, hnone]
  rcases h.load_cases with ⟨error, hload, hload'⟩ | ⟨w, hload, hload', hs⟩
  · rw [hload, hload']
  · rw [hload, hload']
    cases outputDir with
    | none => rfl
    | some directory =>
      exact congrArg (Option.map Failure.ofGenerate)
        (run_retool_matches h.differWithin ht hs directory).failure

end

/-! ## Three runs -/

/-- What is seen of two generations that do the same, from a model under an override and from one that
needs none. -/
structure SameGeneration (host : Host) (model t : String) (verbosity : Log.Verbosity)
    (shown shown' : Shown) : Prop where
  ending : shown'.ending = shown.ending
  stdout : shown'.stdout = shown.stdout
  /-- The override is announced. -/
  stderr : shown.stderr = Log.render verbosity [announcement t] ++ shown'.stderr
  written : shown'.written = shown.written
  /-- The same is left on the disk, in the files that were written and everywhere else, except for the
  model if none of them was written over it. -/
  disk : ∀ place, place ≠ (Path.ofString model).locate host.cwd ∨
    place ∈ shown.written.map (·.locate host.cwd) → shown'.disk.node? place = shown.disk.node? place

theorem Result.Matches.sameGeneration {r r' : Result}
    (h : r.Matches ((Path.ofString model).locate host.cwd) host.cwd t r')
    (verbosity : Log.Verbosity) :
    SameGeneration host model t verbosity (r.shown verbosity) (r'.shown verbosity) where
  ending := h.ending
  stdout := h.output
  stderr := by
    unfold Result.shown
    rw [h.log, Log.render_cons]
  written := h.written
  disk place hplace := by
    refine h.disk.node?_eq ?_
    rintro ⟨hmodel, hfiles⟩
    rcases hplace with hne | hmem
    · exact hne hmodel
    · obtain ⟨file, hfile, heq⟩ := List.mem_map.mp hmem
      exact hfiles file hfile heq.symm

/-- **However one toolset is chosen, the same is generated.** -/
theorem run_one_toolset {t model : String} (ht : t ≠ "") {verbosity : Log.Verbosity}
    {outputDir unset unset' silent : Option String}
    {byOption byEnvironment byModel : List String}
    (hoption : readArguments byOption = .ok (.run verbosity (.generate model outputDir (some t))))
    (henvironment :
      readArguments byEnvironment = .ok (.run verbosity (.generate model outputDir unset)))
    (hmodel : readArguments byModel = .ok (.run verbosity (.generate model outputDir unset')))
    (hunset : Silent unset) (hunset' : Silent unset') (hsilent : Silent silent) (host : Host)
    (environment : Option String) :
    (run ⟨host, some t⟩ byEnvironment = run ⟨host, environment⟩ byOption ∧
      failure? ⟨host, some t⟩ model outputDir unset
        = failure? ⟨host, environment⟩ model outputDir (some t)) ∧
    ∀ disk, ModelRetooled host model t disk →
      SameGeneration host model t verbosity (run ⟨host, environment⟩ byOption)
        (run ⟨⟨disk, host.cwd⟩, silent⟩ byModel) ∧
      failure? ⟨⟨disk, host.cwd⟩, silent⟩ model outputDir unset'
        = failure? ⟨host, environment⟩ model outputDir (some t) := by
  have hoverride := toolsetOverride_of_argument ht environment
  have hsame : toolsetOverride unset (some t) = toolsetOverride (some t) environment := by
    rw [hoverride, toolsetOverride_of_environment hunset ht]
  have hnone := toolsetOverride_of_silent hunset' hsilent
  rw [run_of_read hoption, run_of_read henvironment]
  refine ⟨⟨congrArg (·.shown verbosity) (generate_congr hsame), failure?_congr hsame⟩,
    fun disk h => ⟨?_, failure?_retool h ht hoverride hnone outputDir⟩⟩
  rw [run_of_read hmodel]
  exact (generate_matches h ht hoverride hnone outputDir).sameGeneration verbosity

/-- A project with a configuration that asks for a toolset, and another that does not. -/
def Sample.mixed : String :=
  "[[project]]\nname = \"a\"\n[[project.configuration]]\nname = \"D\"\ntoolset = \"msc\"\n" ++
  "[[project.configuration]]\nname = \"R\"\n"

/-- The same with one toolset for both. -/
def Sample.uniform : String :=
  "[[project]]\nname = \"a\"\n[[project.configuration]]\nname = \"D\"\ntoolset = \"gcc\"\n" ++
  "[[project.configuration]]\nname = \"R\"\ntoolset = \"gcc\"\n"

def Sample.document : Table :=
  [("project", .list [.table [("name", .string "a"), ("configuration", .list [
    .table [("name", .string "D"), ("toolset", .string "msc")],
    .table [("name", .string "R")]])]])]

theorem Sample.read_mixed : Toml.read Sample.mixed = .ok Sample.document := by decide +kernel

theorem Sample.read_uniform :
    Toml.read Sample.uniform = .ok (Workspace.retoolTable "gcc" Sample.document) := by
  decide +kernel

theorem Sample.namesToolsets : Workspace.NamesToolsets Sample.document := by
  intro projects hprojects fields hfields entries hentries settings hsettings value hvalue
  cases hprojects
  obtain rfl : fields = _ := Value.table.inj (List.mem_singleton.mp hfields)
  cases hentries
  rcases List.mem_pair.mp hsettings with hsettings | hsettings <;> cases hsettings <;> cases hvalue
  exact .inr ⟨_, rfl⟩

/-- Nothing but a model is on the disk. -/
def Sample.hostWith (text : String) : Host :=
  ⟨.place .empty [⟨"app.toml", by decide⟩] (.file text.toUTF8), []⟩

theorem Sample.modelRetooled :
    ModelRetooled (Sample.hostWith Sample.mixed) "app.toml" "gcc"
      (Sample.hostWith Sample.uniform).disk := by
  refine ⟨Sample.mixed, Sample.document, Sample.uniform, _, ?_, Sample.read_mixed,
    Sample.read_uniform, Workspace.retooled_retoolTable Sample.namesToolsets "gcc", ?_⟩
  · exact Disk.read_eq_ok_iff.mpr ⟨by decide, by decide, rfl⟩
  · rfl

/-- One model, read with the option, with the environment, and with the toolset written into it. -/
theorem run_one_toolset_sample :
    run ⟨Sample.hostWith Sample.mixed, some "gcc"⟩ ["generate", "app.toml"]
        = run ⟨Sample.hostWith Sample.mixed, none⟩ ["generate", "app.toml", "--cc", "gcc"] ∧
      SameGeneration (Sample.hostWith Sample.mixed) "app.toml" "gcc" .quiet
        (run ⟨Sample.hostWith Sample.mixed, none⟩ ["generate", "app.toml", "--cc", "gcc"])
        (run ⟨Sample.hostWith Sample.uniform, some ""⟩ ["generate", "app.toml"]) := by
  have hplain : readArguments ["generate", "app.toml"]
      = .ok (.run .quiet (.generate "app.toml" (some "build") none)) := by decide
  have hoption : readArguments ["generate", "app.toml", "--cc", "gcc"]
      = .ok (.run .quiet (.generate "app.toml" (some "build") (some "gcc"))) := by decide +kernel
  have hall := run_one_toolset (t := "gcc") (by decide) hoption hplain hplain (.inl rfl) (.inl rfl)
    (.inr rfl) (Sample.hostWith Sample.mixed) none
  exact ⟨hall.1.1, (hall.2 _ Sample.modelRetooled).1⟩

end CommandLine

end CMakeGen
