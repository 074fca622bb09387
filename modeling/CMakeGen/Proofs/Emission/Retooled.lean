import CMakeGen.Emission.Generation
import CMakeGen.Proofs.Disk.Contents
import CMakeGen.Proofs.Emission.Owned
import CMakeGen.Proofs.Model.Retool

/-!
# An override and a model that needs none

Scripts are generated from a model with an override, and from the same model with every configuration
asking for that toolset and without an override. **They are the same, and so is all that is said and
written on the way** (`Generation.run_retool`): the toolset is chosen in one place, and neither the chosen
one nor anything else looks at what the settings asked for.

The second generation may run on a disk on which files hold something else, as the model itself will:
generating asks of a file only whether it is there.
-/

namespace CMakeGen

/-! ## Links -/

section

variable {t : Toolset} (ht : t.IgnoresChoice)

include ht

/-- What is linked are the settings of the same configuration, with another choice or not. -/
theorem Toolset.libraryPath_retool (s : Store) (identifier : String) (sibling : Project)
    (settings : Configuration) (choice : Option String) :
    t.libraryPath (s.retool identifier) sibling { settings with toolset := choice }
      = t.libraryPath s sibling settings := by
  unfold libraryPath linkedConfiguration?
  rw [Store.findConfiguration_retool]
  dsimp only
  cases (s.findConfiguration sibling settings.name).or sibling.configurations.head? with
  | none =>
    simp only [Option.map_none, Option.getD_none]
    rw [ht.libraryName]
  | some c =>
    obtain ⟨toolset, hc⟩ := s.configuration_retool identifier c
    simp only [Option.map_some, Option.getD_some]
    rw [hc, ht.libraryName]

theorem Toolset.link_retool (s : Store) (identifier : String) (cwd : Location)
    (project : Option Project) (settings : Configuration) (choice : Option String)
    (entry : String) :
    t.link (s.retool identifier) cwd project { settings with toolset := choice } entry
      = t.link s cwd project settings entry := by
  have hfind (project : Project) : (s.retool identifier).findDependency project entry
      = s.findDependency project entry := rfl
  cases project with
  | none => rfl
  | some project =>
    unfold link
    dsimp only
    rw [hfind]
    cases s.findDependency project entry with
    | none => rfl
    | some dependency =>
      simp only [Option.map_some, Store.project_retool]
      unfold siblingPath
      rw [Toolset.libraryPath_retool ht]

end

/-! ## A configuration -/

namespace Setting

/-- The setting without its override, on another disk. -/
def unforced (x : Setting) (disk : Disk) : Setting :=
  { x with host := { x.host with disk := disk }, override := none }

section

variable {x : Setting} {identifier : String} {P : Location → Prop} {disk : Disk} {s : Store}
  {p : ProjectId} {c : ConfigurationId}

theorem headerFor_unforced (hdisk : Disk.DifferWithin P x.host.disk disk) (project : Project)
    (settings : Configuration) (choice : Option String) :
    headerFor (x.unforced disk).fs (x.unforced disk).host project
        { settings with toolset := choice }
      = headerFor x.fs x.host project settings := by
  have hprobe : x.fs.probe ⟨disk, x.host.cwd⟩ = x.fs.probe x.host :=
    funext (FileSystem.probe_differWithin hdisk x.fs x.host.cwd)
  have hwanted : wantedHeader? { settings with toolset := choice } = wantedHeader? settings := rfl
  have hcandidates (header : String) :
      headerCandidates project { settings with toolset := choice } header
        = headerCandidates project settings header := rfl
  unfold headerFor unforced
  dsimp only
  rw [hprobe, hwanted]
  simp only [hcandidates]

theorem amount_unforced {t : Toolset} (ht : t.IgnoresChoice)
    (hdisk : Disk.DifferWithin P x.host.disk disk) (project : Project) (settings : Configuration)
    (standard : Option Standard) :
    (x.unforced disk).amount (s.retool identifier) project (settings.withToolset identifier) t standard
      = x.amount s project settings t standard := by
  have hlink (entry : String) : t.link (s.retool identifier) x.host.cwd (some project)
      (settings.withToolset identifier) entry = t.link s x.host.cwd (some project) settings entry :=
    Toolset.link_retool ht s identifier x.host.cwd (some project) settings (some identifier) entry
  have hflags : t.linkerFlags (some project) (settings.withToolset identifier)
      = t.linkerFlags (some project) settings :=
    ht.linkerFlags (some project) settings (some identifier)
  have hheader : headerFor (x.unforced disk).fs (x.unforced disk).host project
      (settings.withToolset identifier) = headerFor x.fs x.host project settings :=
    headerFor_unforced hdisk project settings (some identifier)
  unfold amount
  rw [hheader, hflags]
  unfold unforced
  simp only [hlink]
  rfl

variable (hne : identifier ≠ "") (hoverride : x.override = some identifier)

include hne hoverride

theorem chosenToolset_unforced (settings : Configuration) :
    chosenToolset (x.unforced disk).override (settings.withToolset identifier)
      = chosenToolset x.override settings := by
  rw [hoverride, Registry.chosenToolset_of_override hne]
  simp [chosenToolset, unforced, Configuration.withToolset, Option.filter_some, hne]

theorem asked_unforced (project : Project) (settings : Configuration) :
    (x.unforced disk).asked project (settings.withToolset identifier)
      = x.asked project settings := by
  unfold asked
  rw [chosenToolset_unforced hne hoverride]
  rfl

variable (hignores : ∀ t, x.registry.get? identifier = some t → t.IgnoresChoice)

include hignores

theorem settle_unforced (hdisk : Disk.DifferWithin P x.host.disk disk) (project : Project)
    (settings : Configuration) :
    (x.unforced disk).settle (s.retool identifier) project (settings.withToolset identifier)
      = x.settle s project settings := by
  unfold settle
  rw [asked_unforced hne hoverride]
  refine map_congr_of_ok fun found hfound => ?_
  obtain ⟨t, standard⟩ := found
  have hget := get?_of_asked hfound
  rw [hoverride, Registry.chosenToolset_of_override hne] at hget
  exact amount_unforced (hignores t hget) hdisk project settings standard

/-- **A configuration resolves to the same.** -/
theorem resolve_unforced (hdisk : Disk.DifferWithin P x.host.disk disk) (hs : s.Coherent)
    (hc : c ∈ (s.project p).configurations) :
    (x.unforced disk).resolve (s.retool identifier) c = x.resolve s c := by
  have howner := hs.owner?_eq hc
  have howner' : (s.retool identifier).owner? c = some (s.project p) := by
    rw [Store.owner?_retool, howner]
  rw [resolve_of_owner howner', resolve_of_owner howner,
    Store.configuration_retool_of_lt identifier (hs.lt_length hc)]
  exact settle_unforced hne hoverride hignores hdisk _ _

/-! ## A project -/

theorem renderProject_unforced (hdisk : Disk.DifferWithin P x.host.disk disk) (hs : s.Coherent)
    (p : ProjectId) :
    (x.unforced disk).renderProject (s.retool identifier) p = x.renderProject s p := by
  have hstatements (r : Resolved) (target : String) (settings : Configuration) :
      r.statements target (settings.withToolset identifier) = r.statements target settings := rfl
  unfold renderProject
  rw [emit_eq, emit_eq, Store.project_retool]
  have hemit : (x.unforced disk).emitConfigurations (s.retool identifier) (s.project p)
      (s.project p).configurations = x.emitConfigurations s (s.project p)
        (s.project p).configurations := by
    refine emitConfigurations_congr_emit fun c hc => ?_
    unfold emitConfiguration
    rw [resolve_unforced hne hoverride hignores hdisk hs hc,
      Store.configuration_retool_of_lt identifier (hs.lt_length hc)]
    simp only [hstatements]
  rw [hemit]
  rfl

theorem traceConfiguration_unforced (hdisk : Disk.DifferWithin P x.host.disk disk)
    (hs : s.Coherent) (hc : c ∈ (s.project p).configurations) :
    (x.unforced disk).traceConfiguration (s.retool identifier) c = x.traceConfiguration s c := by
  have hconfiguration := Store.configuration_retool_of_lt identifier (hs.lt_length hc)
  have hresolve : (x.unforced disk).registry.resolve (s.retool identifier)
      (x.unforced disk).override c = x.registry.resolve s x.override c := by
    unfold Registry.resolve
    rw [hconfiguration, chosenToolset_unforced hne hoverride, Store.describe_retool]
    rfl
  unfold traceConfiguration
  rw [hresolve, resolve_unforced hne hoverride hignores hdisk hs hc, Store.describe_retool,
    Store.owner?_retool]
  cases htoolset : x.registry.resolve s x.override c with
  | error d => rfl
  | ok t =>
    have hget := Registry.get?_of_resolve htoolset
    rw [hoverride, Registry.chosenToolset_of_override hne] at hget
    have hlinks (cwd : Location) : t.links (s.retool identifier) cwd c = t.links s cwd c := by
      unfold Toolset.links
      rw [hconfiguration, Store.owner?_retool]
      exact List.map_congr_left fun entry _ => Toolset.link_retool (hignores t hget) _ _ _ _ _ _ entry
    have hheader (header : HeaderSearch) :
        headerTrace (s.retool identifier) c header = headerTrace s c header := by
      unfold headerTrace
      rw [Store.describe_retool]
    simp only [hlinks, hheader]
    rfl

theorem trace_unforced (hdisk : Disk.DifferWithin P x.host.disk disk) (hs : s.Coherent)
    (p : ProjectId) : (x.unforced disk).trace (s.retool identifier) p = x.trace s p := by
  have hall (cs : List ConfigurationId) (hcs : ∀ c ∈ cs, c ∈ (s.project p).configurations) :
      (x.unforced disk).traceConfigurations (s.retool identifier) cs
        = x.traceConfigurations s cs := by
    induction cs with
    | nil => rfl
    | cons c rest ih =>
      obtain ⟨hc, hrest⟩ := List.forall_mem_cons.mp hcs
      rw [traceConfigurations, traceConfigurations, ih hrest,
        traceConfiguration_unforced hne hoverride hignores hdisk hs hc,
        resolve_unforced hne hoverride hignores hdisk hs hc]
  exact hall _ fun _ hc => hc

end

end Setting

/-! ## Writing -/

/-- The outcomes are the same, but for what is in files at such places that were not written. -/
structure Outcome.Matches (P : Location → Prop) (cwd : Location) (o o' : Outcome) : Prop where
  failure : o'.failure = o.failure
  written : o'.written = o.written
  log : o'.log = o.log
  disk : Disk.DifferWithin (fun place => P place ∧ ∀ file ∈ o.written, place ≠ file.locate cwd)
    o.disk o'.disk

/-- Both say the same before. -/
theorem Outcome.Matches.prepend {P : Location → Prop} {cwd : Location} {o o' : Outcome}
    (h : o.Matches P cwd o') (log : List Log.Entry) :
    Outcome.Matches P cwd { o with log := log ++ o.log } { o' with log := log ++ o'.log } where
  failure := h.failure
  written := h.written
  log := congrArg (log ++ ·) h.log
  disk := h.disk

namespace Generation

variable {P : Location → Prop} {cwd : Location} {disk disk' : Disk}

theorem matches_done (h : Disk.DifferWithin P disk disk') (log : List Log.Entry)
    (failure : Option GenerateError) :
    Outcome.Matches P cwd ⟨disk, [], log, failure⟩ ⟨disk', [], log, failure⟩ where
  failure := rfl
  written := rfl
  log := rfl
  disk := h.mono fun _ hplace => ⟨hplace, fun _ hfile => absurd hfile List.not_mem_nil⟩

/-- A file that is written is the same afterwards, so that there is one place less to differ. -/
theorem writeFile_matches (h : Disk.DifferWithin P disk disk') (file : Path) (text : String)
    {next next' : Disk → Outcome}
    (hnext : ∀ d d', Disk.DifferWithin (fun place => P place ∧ place ≠ file.locate cwd) d d' →
      Outcome.Matches (fun place => P place ∧ place ≠ file.locate cwd) cwd (next d) (next' d')) :
    Outcome.Matches P cwd (writeFile ⟨disk, cwd⟩ file text next)
      (writeFile ⟨disk', cwd⟩ file text next') := by
  unfold writeFile
  dsimp only
  obtain ⟨⟨hfailure, hleft⟩, hmade⟩ := h.write cwd file text.toUTF8
  generalize disk.write cwd file text.toUTF8 = made at hfailure hleft hmade
  generalize disk'.write cwd file text.toUTF8 = made' at hfailure hleft hmade
  obtain ⟨made, failure⟩ := made
  obtain ⟨made', failure'⟩ := made'
  dsimp only at hfailure hleft hmade
  subst hfailure
  cases failure' with
  | some e => exact matches_done hleft [] (some (.disk e))
  | none =>
    obtain ⟨hfailure, hwritten, hlog, hdisk⟩ := hnext made made' (hmade rfl)
    refine ⟨hfailure, congrArg (file :: ·) hwritten, congrArg ([wrote file] ++ ·) hlog, ?_⟩
    refine hdisk.mono fun place hplace => ⟨hplace.1.1, ?_⟩
    exact List.forall_mem_cons.mpr ⟨hplace.1.2, hplace.2⟩

variable {g : Generation} {identifier : String} {s : Store}

theorem writeWorkspace_retool (h : Disk.DifferWithin P disk disk') (outputDir : Path)
    (projects : List ProjectId) :
    Outcome.Matches P cwd (g.writeWorkspace s outputDir projects ⟨disk, cwd⟩)
      ({ g with override := none }.writeWorkspace (s.retool identifier) outputDir projects
        ⟨disk', cwd⟩) := by
  have htext : renderWorkspace g.workspace (s.retool identifier) projects
      = renderWorkspace g.workspace s projects := rfl
  unfold writeWorkspace
  dsimp only
  rw [htext]
  split
  · exact writeFile_matches h _ _ fun _ _ h => matches_done h [] none
  · exact matches_done h [] none

variable (hne : identifier ≠ "") (hoverride : g.override = some identifier)
  (hignores : ∀ t, g.registry.get? identifier = some t → t.IgnoresChoice) (hs : s.Coherent)

include hne hoverride hignores hs

theorem writeProjects_retool (h : Disk.DifferWithin P disk disk') (outputDir : Path)
    (projects rest : List ProjectId) :
    Outcome.Matches P cwd (g.writeProjects s outputDir projects rest ⟨disk, cwd⟩)
      ({ g with override := none }.writeProjects (s.retool identifier) outputDir projects rest
        ⟨disk', cwd⟩) := by
  induction rest generalizing P disk disk' with
  | nil => exact writeWorkspace_retool h outputDir projects
  | cons p rest ih =>
    have hsetting : { g with override := none }.setting ⟨disk', cwd⟩
        = (g.setting ⟨disk, cwd⟩).unforced disk' := rfl
    have hrender := Setting.renderProject_unforced (x := g.setting ⟨disk, cwd⟩) hne hoverride
      hignores h hs p
    have htrace := Setting.trace_unforced (x := g.setting ⟨disk, cwd⟩) hne hoverride hignores h hs p
    unfold writeProjects
    dsimp only
    rw [hsetting, hrender, htrace, Store.project_retool]
    refine Outcome.Matches.prepend ?_ _
    cases (g.setting ⟨disk, cwd⟩).renderProject s p with
    | error e => exact matches_done h [] (some (.render e))
    | ok text => exact writeFile_matches h _ text fun _ _ h => ih h

/-- **A model generates the same under an override and with the toolset written into it.** -/
theorem run_retool (h : Disk.DifferWithin P disk disk') (projects : List ProjectId)
    (outputDir : Path) :
    Outcome.Matches P cwd (g.run ⟨disk, cwd⟩ s projects outputDir)
      ({ g with override := none }.run ⟨disk', cwd⟩ (s.retool identifier) projects outputDir) := by
  obtain ⟨hfailure, hmade⟩ := h.makeDirectories cwd outputDir
  unfold run
  dsimp only
  generalize disk.makeDirectories cwd outputDir = made at hfailure hmade
  generalize disk'.makeDirectories cwd outputDir = made' at hfailure hmade
  obtain ⟨made, failure⟩ := made
  obtain ⟨made', failure'⟩ := made'
  dsimp only at hfailure hmade
  subst hfailure
  cases failure' with
  | some e => exact matches_done hmade [] (some (.disk e))
  | none => exact writeProjects_retool hne hoverride hignores hs hmade outputDir projects projects

end Generation

end CMakeGen
