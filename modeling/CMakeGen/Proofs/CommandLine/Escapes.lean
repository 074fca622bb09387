import CMakeGen.CommandLine.Run
import CMakeGen.Proofs.Emission.FirstFailure
import CMakeGen.Proofs.Emission.Generation
import CMakeGen.Proofs.Workspace.Load

/-!
# What nobody handles

A command is to end with a code, whatever it finds: with 0 if it has done what it was asked to, and
otherwise with 1 and a complaint in the log. Each of its steps handles the failures that it knows
of, and **`Escapes` lists those that nobody knows of** (`run_ends`): places that may not be looked at,
files that are no text, integers with too many digits, configurations that there is nothing to go
through in, U+0000 in a name, and an output directory that is not there. On a disk as it is modelled
there are no others, and a command that meets none of them ends with a code. Names that are too long
for the operating system or are no UTF-8, and values that are nested too deep to be turned into text,
are outside the model, and nobody handles them either.

A failure to render is always handled, since the configurations of a loaded workspace have an owner.
So all that escapes from writing is U+0000: in the output directory, or in the name of a project whose
turn has come.
-/

namespace CMakeGen

/-! ## Writing -/

namespace Generation

variable {g : Generation} {host : Host} {s : Store} {projects : List ProjectId} {outputDir : Path}

/-- It is the turn of a project with U+0000 in its name: the scripts of the projects before it are
written, and its own is rendered. -/
def MeetsNull (g : Generation) (host : Host) (s : Store) (projects : List ProjectId)
    (outputDir : Path) : Prop :=
  ∃ before p after text, projects = before ++ p :: after ∧
    (g.scriptsOnly.run host s before outputDir).failure = none ∧
    (g.setting ⟨(g.scriptsOnly.run host s before outputDir).disk, host.cwd⟩).renderProject s p
      = .ok text ∧
    '\x00' ∈ (s.project p).name.toList

theorem hasNull_projectFile (h : outputDir.hasNull = false) (project : Project) :
    (projectFile outputDir project).hasNull = true ↔ '\x00' ∈ project.name.toList := by
  rw [projectFile, Path.hasNull_join, Path.hasNull_ofString, scriptName, String.toList_append,
    List.mem_append, h]
  simp

theorem hasNull_workspaceFile (h : outputDir.hasNull = false) :
    (workspaceFile outputDir).hasNull = false := by
  rw [Bool.eq_false_iff, ne_eq, workspaceFile, Path.hasNull_join, Path.hasNull_ofString, h]
  decide

theorem failure_cases (hs : s.Coherent) (hr : g.registry.Built) {e : GenerateError}
    (h : (g.run host s projects outputDir).failure = some e) :
    (∃ d, e = .render (.diagnosed d)) ∨ ∃ error, e = .disk error := by
  rcases run_cases g host s projects outputDir with
    ⟨made, error, hmade⟩ | ⟨made, hmade, ⟨texts, disk, hwrites⟩ |
      ⟨before, p, after, texts, disk, refusal, left, rfl, hwrites, hrefuses⟩⟩
  · rw [run_of_not_made hmade] at h
    exact .inr ⟨error, (Option.some.inj h).symm⟩
  · rw [(run_of_writes g hmade hwrites).2.1] at h
    obtain ⟨-, error, he, -⟩ := writeWorkspace_failed h
    exact .inr ⟨error, he⟩
  · rw [(run_of_refuses hmade hwrites hrefuses after).1] at h
    obtain rfl := Option.some.inj h
    cases hrefuses with
    | render hrender =>
      obtain ⟨_, c, _, -, -, -, rfl⟩ := Setting.exists_first_of_failure hs hr
        (Setting.script_eq_error_iff.mp hrender)
      exact .inl ⟨_, rfl⟩
    | write _ hwrite => exact .inr ⟨_, rfl⟩

/-- **Writing meets U+0000 in the output directory, or in the name of a project at its turn.** -/
theorem failure_eq_null_iff :
    (g.run host s projects outputDir).failure = some (.disk .nullCharacter) ↔
      outputDir.hasNull = true ∨ g.MeetsNull host s projects outputDir := by
  cases hnull : outputDir.hasNull with
  | true =>
    have hmade : host.disk.makeDirectories host.cwd outputDir
        = ((host.disk.makeDirectories host.cwd outputDir).1, some .nullCharacter) :=
      Prod.ext rfl (Disk.makeDirectories_eq_null_iff.mpr hnull)
    refine iff_of_true ?_ (.inl rfl)
    rw [run_of_not_made hmade]
    rfl
  | false =>
    rw [or_iff_right Bool.false_ne_true]
    constructor
    · intro h
      rcases run_cases g host s projects outputDir with
        ⟨made, error, hmade⟩ | ⟨made, hmade, ⟨texts, disk, hwrites⟩ |
          ⟨before, p, after, texts, disk, refusal, left, rfl, hwrites, hrefuses⟩⟩
      · rw [run_of_not_made hmade] at h
        cases h
        have hdirectory := Disk.makeDirectories_eq_null_iff.mp (congrArg Prod.snd hmade)
        exact absurd hdirectory (Bool.eq_false_iff.mp hnull)
      · -- The scripts are all there, and the name of the last file is a fixed one.
        rw [(run_of_writes g hmade hwrites).2.1] at h
        obtain ⟨-, error, he, hwrite⟩ := writeWorkspace_failed h
        cases he
        have hfile := Disk.write_eq_null_iff.mp (congrArg Prod.snd hwrite)
        rw [hasNull_workspaceFile hnull] at hfile
        cases hfile
      · rw [(run_of_refuses hmade hwrites hrefuses after).1] at h
        cases h
        obtain ⟨hdisk, hfailure⟩ := hwrites.run_scriptsOnly hmade
        cases hrefuses with
        | write hrender hwrite =>
          refine ⟨before, p, after, _, rfl, hfailure, by rw [hdisk]; exact hrender, ?_⟩
          have hfile := Disk.write_eq_null_iff.mp (congrArg Prod.snd hwrite)
          exact (hasNull_projectFile hnull _).mp hfile
    · rintro ⟨before, p, after, text, rfl, hbefore, hrender, hname⟩
      obtain ⟨made, texts, hmade, hwrites⟩ := writes_of_run_scriptsOnly hbefore
      have hfile := (hasNull_projectFile hnull (s.project p)).mpr hname
      exact (run_of_refuses hmade hwrites (.write hrender (Disk.write_of_hasNull hfile _)) after).1

end Generation

/-! ## What nobody handles -/

namespace CommandLine

open Workspace

/-- What a command generates from a workspace. -/
def generation (e : Environment) (w : Workspace) (toolset : Option String) : Generation :=
  { workspace := some w.name, override := toolsetOverride toolset e.toolset }

/-- The failures that break a command off. -/
inductive Escapes (e : Environment) : Command → Failure → Prop where
  /-- The model may not be looked for. -/
  | lookup {model : String} {outputDir toolset : Option String} {refusal : Disk.Error}
      (h : e.host.disk.pathExists e.host.cwd (.ofString model) = .error refusal) :
      Escapes e (.generate model outputDir toolset) (.disk refusal)
  | load {model : String} {outputDir toolset : Option String} {error : LoadError}
      (there : e.host.disk.pathExists e.host.cwd (.ofString model) = .ok true)
      (h : Undiagnosed e.host (.ofString model) error) :
      Escapes e (.generate model outputDir toolset) (.ofLoad error)
  | noOutputDir {model : String} {toolset : Option String} {w : Workspace}
      (there : e.host.disk.pathExists e.host.cwd (.ofString model) = .ok true)
      (load : Workspace.load e.host (.ofString model) = .ok w) :
      Escapes e (.generate model none toolset) .noOutputDir
  | outputDir {model outputDir : String} {toolset : Option String} {w : Workspace}
      (there : e.host.disk.pathExists e.host.cwd (.ofString model) = .ok true)
      (load : Workspace.load e.host (.ofString model) = .ok w) (h : '\x00' ∈ outputDir.toList) :
      Escapes e (.generate model (some outputDir) toolset) (.disk .nullCharacter)
  | projectName {model outputDir : String} {toolset : Option String} {w : Workspace}
      (there : e.host.disk.pathExists e.host.cwd (.ofString model) = .ok true)
      (load : Workspace.load e.host (.ofString model) = .ok w)
      (h : (generation e w toolset).MeetsNull e.host w.store w.projects (.ofString outputDir)) :
      Escapes e (.generate model (some outputDir) toolset) (.disk .nullCharacter)
  | info {model : String} {error : LoadError} (h : Undiagnosed e.host (.ofString model) error) :
      Escapes e (.info model) (.ofLoad error)

def Succeeds (e : Environment) : Command → Prop
  | .generate model outputDir toolset =>
    e.host.disk.pathExists e.host.cwd (.ofString model) = .ok true ∧
    ∃ w, load e.host (.ofString model) = .ok w ∧ ∃ directory, outputDir = some directory ∧
      ((generation e w toolset).run e.host w.store w.projects (.ofString directory)).failure = none
  | .info model => ∃ w, load e.host (.ofString model) = .ok w
  | .toolsets => True

/-- The run ended with 1 and a complaint. -/
def Result.Complains (r : Result) : Prop :=
  r.ending = .exit 1 ∧ ∃ earlier message, r.log = earlier ++ [Result.complaint message]

variable {e : Environment} {f : Failure} {command : Command}

theorem loadFailure_of_undiagnosed {error : LoadError} (h : ∀ d, error ≠ .read (.diagnosed d)) :
    loadFailure error = (.broken (.ofLoad error), []) := by
  cases error with
  | read e =>
    cases e with
    | diagnosed d => exact absurd rfl (h d)
    | _ => rfl
  | _ => rfl

theorem loadFailure_cases {p : Path} {error : LoadError} (h : load e.host p = .error error) :
    Undiagnosed e.host p error ∨
      ∃ message, loadFailure error = (.exit 1, [Result.complaint message]) := by
  by_cases hdiagnosed : ∀ d, error ≠ .read (.diagnosed d)
  · exact .inl (load_undiagnosed_iff.mp ⟨h, hdiagnosed⟩)
  · obtain ⟨d, hd⟩ := not_forall.mp hdiagnosed
    obtain rfl := not_not.mp hd
    exact .inr ⟨d.message, rfl⟩

theorem generateFailure_cases {error : GenerateError}
    (h : (∃ d, error = .render (.diagnosed d)) ∨ ∃ e, error = .disk e) :
    (error = .disk .nullCharacter ∧
        generateFailure error = (.broken (.disk .nullCharacter), [])) ∨
      ∃ message, generateFailure error = (.exit 1, [Result.complaint message]) := by
  rcases h with ⟨d, rfl⟩ | ⟨_ | _ | _, rfl⟩
  · exact .inr ⟨_, rfl⟩
  · exact .inr ⟨_, rfl⟩
  · exact .inl ⟨rfl, rfl⟩
  · exact .inr ⟨_, rfl⟩

/-! ### Generating -/

section

variable {model : String} {outputDir toolset : Option String} {w : Workspace}

theorem generate_of_refused {refusal : Disk.Error}
    (h : e.host.disk.pathExists e.host.cwd (.ofString model) = .error refusal) :
    (generate e model outputDir toolset).ending = .broken (.disk refusal) := by
  rw [generate, h]
  rfl

theorem generate_eq_of_absent (outputDir toolset : Option String)
    (h : e.host.disk.pathExists e.host.cwd (.ofString model) = .ok false) :
    ∃ message, generate e model outputDir toolset
      = Result.quiet e (.exit 1) "" [Result.complaint message] := by
  rw [generate, h]
  exact ⟨_, rfl⟩

theorem generate_eq_of_not_loaded (outputDir toolset : Option String)
    (there : e.host.disk.pathExists e.host.cwd (.ofString model) = .ok true) {error : LoadError}
    (h : load e.host (.ofString model) = .error error) :
    ∃ earlier, generate e model outputDir toolset
      = Result.quiet e (loadFailure error).1 "" (earlier ++ (loadFailure error).2) := by
  rw [generate, there]
  dsimp only
  rw [h]
  exact ⟨_, rfl⟩

theorem generate_of_absent
    (h : e.host.disk.pathExists e.host.cwd (.ofString model) = .ok false) :
    (generate e model outputDir toolset).Complains := by
  obtain ⟨message, heq⟩ := generate_eq_of_absent outputDir toolset h
  rw [heq]
  exact ⟨rfl, [], message, rfl⟩

theorem generate_of_not_loaded (outputDir toolset : Option String)
    (there : e.host.disk.pathExists e.host.cwd (.ofString model) = .ok true) {error : LoadError}
    (h : load e.host (.ofString model) = .error error) :
    (generate e model outputDir toolset).ending = (loadFailure error).1 ∧
      ∃ earlier, (generate e model outputDir toolset).log = earlier ++ (loadFailure error).2 := by
  obtain ⟨earlier, heq⟩ := generate_eq_of_not_loaded outputDir toolset there h
  rw [heq]
  exact ⟨rfl, earlier, rfl⟩

theorem generate_of_loaded (outputDir toolset : Option String)
    (there : e.host.disk.pathExists e.host.cwd (.ofString model) = .ok true)
    (h : load e.host (.ofString model) = .ok w) :
    ∃ log, generate e model outputDir toolset
      = generateLoaded e w (toolsetOverride toolset e.toolset) outputDir log := by
  rw [generate, there]
  dsimp only
  rw [h]
  exact ⟨_, rfl⟩

/-- The result of a generation with this outcome. -/
def resultOf (o : Outcome) (log : List Log.Entry) : Result :=
  match o.failure with
  | none =>
    ⟨.exit 0, String.join (o.written.map fun p => "Generated " ++ p.toString ++ "\n"), log ++ o.log,
      o.disk, o.written⟩
  | some error =>
    ⟨(generateFailure error).1, "", log ++ o.log ++ (generateFailure error).2, o.disk, o.written⟩

theorem generateLoaded_eq_resultOf (e : Environment) (w : Workspace) (override : Option String)
    (directory : String) (log : List Log.Entry) :
    generateLoaded e w override (some directory) log
      = resultOf (Generation.run { workspace := some w.name, override } e.host w.store w.projects
          (.ofString directory)) log := by
  unfold generateLoaded resultOf
  dsimp only
  cases (Generation.run { workspace := some w.name, override } e.host w.store w.projects
    (.ofString directory)).failure with
  | none => simp
  | some error => rfl

theorem resultOf_of_done {o : Outcome} (h : o.failure = none) (log : List Log.Entry) :
    resultOf o log
      = ⟨.exit 0, String.join (o.written.map fun p => "Generated " ++ p.toString ++ "\n"),
          log ++ o.log, o.disk, o.written⟩ := by
  rw [resultOf, h]

theorem resultOf_of_failure {o : Outcome} {error : GenerateError} (h : o.failure = some error)
    (log : List Log.Entry) :
    resultOf o log = ⟨(generateFailure error).1, "", log ++ o.log ++ (generateFailure error).2,
      o.disk, o.written⟩ := by
  rw [resultOf, h]

theorem generateLoaded_of_done {directory : String} (log : List Log.Entry)
    (h : ((generation e w toolset).run e.host w.store w.projects (.ofString directory)).failure
      = none) :
    (generateLoaded e w (toolsetOverride toolset e.toolset) (some directory) log).ending
      = .exit 0 := by
  rw [generateLoaded_eq_resultOf]
  exact congrArg Result.ending (resultOf_of_done h log)

theorem generateLoaded_of_failure {directory : String} (log : List Log.Entry)
    {error : GenerateError}
    (h : ((generation e w toolset).run e.host w.store w.projects (.ofString directory)).failure
      = some error) :
    (generateLoaded e w (toolsetOverride toolset e.toolset) (some directory) log).ending
        = (generateFailure error).1 ∧
      ∃ earlier, (generateLoaded e w (toolsetOverride toolset e.toolset) (some directory) log).log
        = earlier ++ (generateFailure error).2 := by
  have hresult := resultOf_of_failure h log
  rw [generateLoaded_eq_resultOf]
  exact ⟨congrArg Result.ending hresult, _, congrArg Result.log hresult⟩

theorem coherent_of_load (h : load e.host (.ofString model) = .ok w) : w.store.Coherent := by
  obtain ⟨_, _, -, -, hvalue⟩ := document_of_load h
  exact ofValue_coherent hvalue

theorem generateLoaded_cases (log : List Log.Entry)
    (there : e.host.disk.pathExists e.host.cwd (.ofString model) = .ok true)
    (h : load e.host (.ofString model) = .ok w) :
    (∃ f, Escapes e (.generate model outputDir toolset) f) ∨
      Succeeds e (.generate model outputDir toolset) ∨
      (generateLoaded e w (toolsetOverride toolset e.toolset) outputDir log).Complains := by
  cases outputDir with
  | none => exact .inl ⟨_, .noOutputDir there h⟩
  | some directory =>
    cases hfailure :
        ((generation e w toolset).run e.host w.store w.projects (.ofString directory)).failure with
    | none => exact .inr (.inl ⟨there, w, h, directory, rfl, hfailure⟩)
    | some error =>
      obtain ⟨hending, earlier, hlog⟩ := generateLoaded_of_failure log hfailure
      have hkind := Generation.failure_cases (coherent_of_load h) Registry.built_standard hfailure
      rcases generateFailure_cases hkind with ⟨rfl, -⟩ | ⟨message, hcomplaint⟩
      · rcases Generation.failure_eq_null_iff.mp hfailure with hnull | hmeets
        · exact .inl ⟨_, .outputDir there h (Path.hasNull_ofString.mp hnull)⟩
        · exact .inl ⟨_, .projectName there h hmeets⟩
      · rw [hcomplaint] at hending hlog
        exact .inr (.inr ⟨hending, earlier, message, hlog⟩)

end

/-! ### Commands -/

theorem info_of_not_loaded {model : String} {error : LoadError}
    (h : load e.host (.ofString model) = .error error) :
    (info e model).ending = (loadFailure error).1 ∧
      ∃ earlier, (info e model).log = earlier ++ (loadFailure error).2 := by
  rw [info, h]
  exact ⟨rfl, [], rfl⟩

theorem Escapes.ending (h : Escapes e command f) : (command.run e).ending = .broken f := by
  cases h with
  | lookup h => exact generate_of_refused h
  | load there h =>
    obtain ⟨hload, hdiagnosed⟩ := load_undiagnosed_iff.mpr h
    exact (generate_of_not_loaded _ _ there hload).1.trans
      (congrArg Prod.fst (loadFailure_of_undiagnosed hdiagnosed))
  | @noOutputDir _ toolset _ there hload =>
    obtain ⟨log, heq⟩ := generate_of_loaded none toolset there hload
    exact congrArg Result.ending heq
  | @outputDir _ directory toolset _ there hload h =>
    obtain ⟨log, heq⟩ := generate_of_loaded (some directory) toolset there hload
    have hnull : (Path.ofString directory).hasNull = true := Path.hasNull_ofString.mpr h
    exact (congrArg Result.ending heq).trans
      (generateLoaded_of_failure log (Generation.failure_eq_null_iff.mpr (.inl hnull))).1
  | @projectName _ directory toolset _ there hload h =>
    obtain ⟨log, heq⟩ := generate_of_loaded (some directory) toolset there hload
    exact (congrArg Result.ending heq).trans
      (generateLoaded_of_failure log (Generation.failure_eq_null_iff.mpr (.inr h))).1
  | info h =>
    obtain ⟨hload, hdiagnosed⟩ := load_undiagnosed_iff.mpr h
    exact (info_of_not_loaded hload).1.trans
      (congrArg Prod.fst (loadFailure_of_undiagnosed hdiagnosed))

theorem Succeeds.ending (h : Succeeds e command) : (command.run e).ending = .exit 0 := by
  cases command with
  | generate model outputDir toolset =>
    obtain ⟨there, w, hload, directory, rfl, hdone⟩ := h
    obtain ⟨log, heq⟩ := generate_of_loaded (some directory) toolset there hload
    exact (congrArg Result.ending heq).trans (generateLoaded_of_done log hdone)
  | info model =>
    obtain ⟨w, hload⟩ := h
    show (info e model).ending = _
    rw [info, hload]
    rfl
  | toolsets => rfl

/-- A command is broken off by what escapes, or succeeds, or ends with a complaint. -/
theorem command_cases (e : Environment) (command : Command) :
    (∃ f, Escapes e command f) ∨ Succeeds e command ∨ (command.run e).Complains := by
  cases command with
  | generate model outputDir toolset =>
    cases there : e.host.disk.pathExists e.host.cwd (.ofString model) with
    | error refusal => exact .inl ⟨_, .lookup there⟩
    | ok found =>
      cases found with
      | false => exact .inr (.inr (generate_of_absent there))
      | true =>
        cases hload : load e.host (.ofString model) with
        | error error =>
          rcases loadFailure_cases hload with h | ⟨message, hcomplaint⟩
          · exact .inl ⟨_, .load there h⟩
          · obtain ⟨hending, earlier, hlog⟩ :=
              generate_of_not_loaded outputDir toolset there hload
            rw [hcomplaint] at hending hlog
            exact .inr (.inr ⟨hending, earlier, message, hlog⟩)
        | ok w =>
          obtain ⟨log, heq⟩ := generate_of_loaded outputDir toolset there hload
          show _ ∨ _ ∨ (generate e model outputDir toolset).Complains
          rw [heq]
          exact generateLoaded_cases log there hload
  | info model =>
    cases hload : load e.host (.ofString model) with
    | error error =>
      rcases loadFailure_cases hload with h | ⟨message, hcomplaint⟩
      · exact .inl ⟨_, .info h⟩
      · obtain ⟨hending, earlier, hlog⟩ := info_of_not_loaded hload
        rw [hcomplaint] at hending hlog
        exact .inr (.inr ⟨hending, earlier, message, hlog⟩)
    | ok w => exact .inr (.inl ⟨w, hload⟩)
  | toolsets => exact .inr (.inl trivial)

/-- Nothing in a model file is undiagnosed, in terms of what the file holds. -/
structure TameModel (host : Host) (p : Path) : Prop where
  /-- It is a text. -/
  text : ∀ contents, host.disk.read host.cwd p = .ok contents →
    String.fromUTF8? contents ≠ none
  /-- No number in it has too many digits to be read. -/
  numbers : ∀ text digits, host.disk.read host.cwd p = .ok text.toUTF8 →
    Toml.read text ≠ .error (.tooManyDigits digits)
  /-- No integer that comes out of it has too many digits to be written. -/
  integers : ∀ text table, host.disk.read host.cwd p = .ok text.toUTF8 →
    Toml.read text = .ok table → ¬ (Value.table table).Unwritable
  /-- In the configurations of every project is something to go through. -/
  configurations : ∀ text table entries, host.disk.read host.cwd p = .ok text.toUTF8 →
    Toml.read text = .ok table → table.lookup "project" = some (.list entries) →
    ∀ entry ∈ entries, ¬ Unlisted entry

theorem TameModel.not_undiagnosed {host : Host} {p : Path} (h : TameModel host p)
    (hname : p.hasNull = false) (error : LoadError) : ¬ Undiagnosed host p error := by
  rintro (hnull | ⟨hread, htext⟩ | ⟨hread, hparse⟩ | ⟨hread, hparse, hvalue⟩ |
    ⟨hread, hparse, hvalue⟩)
  · exact absurd hnull (Bool.eq_false_iff.mp hname)
  · exact h.text _ hread htext
  · exact h.numbers _ _ hread hparse
  · rcases ofValue_error hvalue with hwithin | ⟨he, -⟩
    · cases hwithin with
      | tooManyDigits hlong => exact h.integers _ _ hread hparse hlong
    · cases he
  · rcases ofValue_error hvalue with hwithin | ⟨-, entries, hlookup, entry, hmem, hunlisted⟩
    · cases hwithin
    · exact h.configurations _ _ _ hread hparse hlookup entry hmem hunlisted

/-- A command that finds nothing that nobody handles. -/
def Tame (e : Environment) : Command → Prop
  | .generate model outputDir _ =>
    (∃ found, e.host.disk.pathExists e.host.cwd (.ofString model) = .ok found) ∧
    TameModel e.host (.ofString model) ∧
    (∃ directory, outputDir = some directory ∧ '\x00' ∉ directory.toList) ∧
    ∀ w, load e.host (.ofString model) = .ok w →
      ∀ p ∈ w.projects, '\x00' ∉ (w.store.project p).name.toList
  | .info model => '\x00' ∉ model.toList ∧ TameModel e.host (.ofString model)
  | .toolsets => True

theorem Tame.not_escapes (h : Tame e command) (f : Failure) : ¬ Escapes e command f := by
  intro hescapes
  cases hescapes with
  | lookup hlookup =>
    obtain ⟨⟨found, hfound⟩, -⟩ := h
    rw [hfound] at hlookup
    cases hlookup
  | load there hload => exact h.2.1.not_undiagnosed (Disk.hasNull_of_pathExists there) _ hload
  | noOutputDir there hload =>
    obtain ⟨-, -, ⟨directory, hdirectory, -⟩, -⟩ := h
    cases hdirectory
  | outputDir there hload hnull =>
    obtain ⟨-, -, ⟨directory, hdirectory, hname⟩, -⟩ := h
    cases hdirectory
    exact hname hnull
  | projectName there hload hmeets =>
    obtain ⟨before, p, after, text, hsplit, -, -, hnull⟩ := hmeets
    obtain ⟨-, -, -, hnames⟩ := h
    refine hnames _ hload p ?_ hnull
    rw [hsplit]
    exact List.mem_append_right before List.mem_cons_self
  | info hload =>
    obtain ⟨hname, hmodel⟩ := h
    rw [← Path.hasNull_ofString, ← ne_eq, ← Bool.eq_false_iff] at hname
    exact hmodel.not_undiagnosed hname _ hload

/-! ### The program -/

/-- What the caller is shown of a result. -/
def Result.shown (r : Result) (verbosity : Log.Verbosity) : Shown :=
  ⟨r.ending, r.output, Log.render verbosity r.log, r.disk, r.written⟩

theorem run_of_read {arguments : List String} {verbosity : Log.Verbosity}
    (h : readArguments arguments = .ok (.run verbosity command)) :
    run e arguments = (command.run e).shown verbosity := by
  unfold run
  rw [h]
  rfl

/-- How a command ends, as its caller is shown. -/
structure EndsWithCode (e : Environment) (command : Command) (verbosity : Log.Verbosity)
    (shown : Shown) : Prop where
  broken : ∀ f, shown.ending = .broken f ↔ Escapes e command f
  succeeded : shown.ending = .exit 0 ↔ Succeeds e command
  /-- The last thing that is shown is the complaint, however little is shown. -/
  failed : (∀ f, ¬ Escapes e command f) → ¬ Succeeds e command →
    shown.ending = .exit 1 ∧ ∃ earlier message,
      shown.stderr = Log.render verbosity earlier ++ (Result.complaint message).line verbosity
  tame : Tame e command → shown.ending = .exit 0 ∨ shown.ending = .exit 1

theorem render_complaint (verbosity : Log.Verbosity) (earlier : List Log.Entry)
    (message : String) :
    Log.render verbosity (earlier ++ [Result.complaint message])
      = Log.render verbosity earlier ++ (Result.complaint message).line verbosity := by
  have hshown : verbosity.shows (Result.complaint message).level = true := by
    cases verbosity <;> rfl
  rw [Log.render, Log.render, List.filter_append, List.map_append]
  simp [hshown]

/-- **A command ends with a code, and says why if it fails, unless it meets what nobody
handles.** -/
theorem run_ends {e : Environment} {arguments : List String} {verbosity : Log.Verbosity}
    {command : Command} (h : readArguments arguments = .ok (.run verbosity command)) :
    EndsWithCode e command verbosity (run e arguments) := by
  rw [run, h]
  constructor
  case broken =>
    refine fun f => ⟨fun hbroken => ?_, Escapes.ending⟩
    change (command.run e).ending = .broken f at hbroken
    rcases command_cases e command with ⟨f', hescapes⟩ | hsucceeds | ⟨hexit, -⟩
    · rw [hescapes.ending] at hbroken
      cases hbroken
      exact hescapes
    · rw [hsucceeds.ending] at hbroken
      cases hbroken
    · rw [hexit] at hbroken
      cases hbroken
  case succeeded =>
    refine ⟨fun hzero => ?_, Succeeds.ending⟩
    change (command.run e).ending = .exit 0 at hzero
    rcases command_cases e command with ⟨f, hescapes⟩ | hsucceeds | ⟨hexit, -⟩
    · rw [hescapes.ending] at hzero
      cases hzero
    · exact hsucceeds
    · rw [hexit] at hzero
      cases hzero
  case failed =>
    intro hescapes hfails
    rcases command_cases e command with ⟨f, hf⟩ | hsucceeds | ⟨hexit, earlier, message, hlog⟩
    · exact absurd hf (hescapes f)
    · exact absurd hsucceeds hfails
    · refine ⟨hexit, earlier, message, ?_⟩
      show Log.render verbosity (command.run e).log = _
      rw [hlog, render_complaint]
  case tame =>
    intro htame
    rcases command_cases e command with ⟨f, hf⟩ | hsucceeds | ⟨hexit, -⟩
    · exact absurd hf (htame.not_escapes f)
    · exact .inl hsucceeds.ending
    · exact .inr hexit

/-- A model file that is no text. -/
def Sample.garbled : Environment where
  host := ⟨.place .empty [⟨"model.toml", by decide⟩] (.file ⟨#[255]⟩), []⟩
  toolset := none

/-- Where a run is broken off, something has escaped. -/
theorem run_ends_sample : Escapes Sample.garbled (.info "model.toml") .notText := by
  have harguments :
      readArguments ["info", "model.toml"] = .ok (.run .quiet (.info "model.toml")) := by decide
  exact ((run_ends harguments).broken .notText).mp (by decide)

/-- Neither command ends with a code. -/
theorem run_broken_of_garbled :
    (run Sample.garbled ["generate", "model.toml"]).ending = .broken .notText ∧
    (run Sample.garbled ["info", "model.toml"]).ending = .broken .notText := by
  exact ⟨by decide, by decide⟩

end CommandLine

end CMakeGen
