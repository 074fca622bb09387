import CMakeGen.Emission.Project
import CMakeGen.Proofs.Except
import Mathlib.Data.List.Basic

/-!
# What a rendered script says

Rendering either succeeds as a whole or ends at the first configuration that cannot be resolved.
Where it succeeds, **everything in the script is told by the project and by what its
configurations resolve to**: `Setting.Resolves` ties the configurations to their resolutions, in
order, and `Project.report` lists the statements without asking how they come about. So later
results about scripts never look into the emission again; `renderProject_eq_ok_iff` is the only
door, and it opens both ways.

The report says for itself when a statement is there at all: a list has one iff it has values,
the standard and the header iff there is something to say.
-/

namespace CMakeGen

/-! ## The report -/

/-- The lists of a configuration, in the order in which a script speaks of them. -/
def Resolved.lists (r : Resolved) (settings : Configuration) : List (ListSetting × List String) :=
  [(.includeDirectories, settings.includeDirs), (.compileDefinitions, settings.defines),
    (.linkDirectories, settings.libDirs), (.linkLibraries, r.links),
    (.linkOptions, r.linkOptions)]

/-- The statements about a configuration that is resolved. -/
def Resolved.report (r : Resolved) (target : String) (settings : Configuration) :
    List Statement :=
  [.outputDirectory target settings.outputDir]
    ++ (r.lists settings).flatMap (fun (setting, values) =>
      if values = [] then [] else [.append setting target settings.name values])
    ++ r.standard.toList.map (.standard target settings.name)
    ++ r.header.path?.toList.map (.precompile target settings.name)

/-- The statements about a project; `resolved` are its configurations with what they resolve
to. -/
def Project.report (s : Store) (project : Project)
    (resolved : List (ConfigurationId × Resolved)) : List Statement :=
  [.declare project.kind project.name project.files]
    ++ (if project.dependencies = [] then []
      else [.depend project.name (project.dependencies.map fun d => (s.project d).name)])
    ++ resolved.flatMap fun entry => entry.2.report project.name (s.configuration entry.1)

/-- Every configuration resolves, and `resolved` says what to. -/
def Setting.Resolves (x : Setting) (s : Store) (configurations : List ConfigurationId)
    (resolved : List (ConfigurationId × Resolved)) : Prop :=
  resolved.map Prod.fst = configurations ∧
    ∀ entry ∈ resolved, x.resolve s entry.1 = .ok entry.2

/-! ## What a configuration resolves to -/

/-- A configuration resolves iff each of the things that have to be looked up is found. -/
theorem Setting.resolve_eq_ok_iff {x : Setting} {s : Store} {c : ConfigurationId} {r : Resolved} :
    x.resolve s c = .ok r ↔
      x.registry.resolve s x.override c = .ok r.toolset ∧
      Standard.ofLabel (s.configuration c).dialect (s.configuration c).pic = .ok r.standard ∧
      resolveLinks x.fs x.host.cwd s c (r.toolset.links s x.host.cwd c) = .ok r.links ∧
      r.linkOptions = (s.configuration c).linkOptions ++ r.toolset.ldflags s c ∧
      searchHeader x.fs x.host s c = .ok r.header := by
  simp only [resolve, bind_eq_ok_iff, mapError_eq_ok_iff]
  constructor
  · rintro ⟨toolset, htoolset, standard, hstandard, links, hlinks, header, hheader, hr⟩
    cases hr
    exact ⟨htoolset, hstandard, hlinks, rfl, hheader⟩
  · rintro ⟨htoolset, hstandard, hlinks, hoptions, hheader⟩
    refine ⟨_, htoolset, _, hstandard, _, hlinks, _, hheader, ?_⟩
    obtain ⟨toolset, standard, links, linkOptions, header⟩ := r
    change linkOptions = _ at hoptions
    rw [hoptions]
    rfl

/-! ## Scripts are reports -/

theorem appendStatement_eq (setting : ListSetting) (target configuration : String)
    (values : List String) :
    appendStatement setting target configuration values
      = if values = [] then [] else [.append setting target configuration values] := by
  cases values <;> rfl

theorem Resolved.statements_eq_report (r : Resolved) (target : String)
    (settings : Configuration) : r.statements target settings = r.report target settings := by
  have hstandard : (r.standard.map (Statement.standard target settings.name)).toList
      = r.standard.toList.map (.standard target settings.name) := by
    cases r.standard <;> rfl
  have hheader : (r.header.path?.map (Statement.precompile target settings.name)).toList
      = r.header.path?.toList.map (.precompile target settings.name) := by
    cases r.header.path? <;> rfl
  rw [statements, report, hstandard, hheader]
  simp only [appendStatement_eq, lists, List.flatMap_cons, List.flatMap_nil, List.append_assoc,
    List.cons_append, List.nil_append]

/-- The values that a statement appends to a list. -/
def Statement.appended (setting : ListSetting) : Statement → List String
  | .append other _ _ values => if other = setting then values else []
  | _ => []

/-- A report appends to a list what the configuration has for it, and nothing else. -/
theorem Resolved.appended_report (r : Resolved) (target : String) (settings : Configuration)
    (setting : ListSetting) {values : List String}
    (h : (r.lists settings).lookup setting = some values) :
    (r.report target settings).flatMap (Statement.appended setting) = values := by
  have happend (other : ListSetting) (values : List String) :
      (if values = [] then [] else
          [Statement.append other target settings.name values]).flatMap (Statement.appended setting)
        = if other = setting then values else [] := by
    by_cases hvalues : values = []
    · simp [hvalues]
    · simp [hvalues, Statement.appended]
  have hrest : (r.standard.toList.map (Statement.standard target settings.name)
      ++ r.header.path?.toList.map (Statement.precompile target settings.name)).flatMap
        (Statement.appended setting) = [] := by
    simp [Statement.appended, List.flatMap_eq_nil_iff]
  rw [report, List.append_assoc, List.flatMap_append, hrest, List.append_nil, List.flatMap_append,
    lists]
  cases setting <;> cases h <;> simp [happend, Statement.appended]

/-- Two reports on the same settings with as many link targets and as many linker options are as long,
so they can be told apart from what follows them. -/
theorem Resolved.report_append_inj {r r' : Resolved} {target : String} {settings : Configuration}
    {rest rest' : List Statement}
    (h : r.report target settings ++ rest = r'.report target settings ++ rest')
    (hlinks : r.links.length = r'.links.length)
    (hoptions : r.linkOptions.length = r'.linkOptions.length)
    (hstandard : r.standard = r'.standard) (hheader : r.header = r'.header) :
    r.links = r'.links ∧ r.linkOptions = r'.linkOptions ∧ rest = rest' := by
  have hroom {values values' : List String} (hvalues : values.length = values'.length)
      (setting : ListSetting) :
      (if values = [] then [] else
          [Statement.append setting target settings.name values]).length
        = (if values' = [] then [] else
          [Statement.append setting target settings.name values']).length := by
    cases values <;> cases values' <;> simp at hvalues ⊢
  have hlength : (r.report target settings).length = (r'.report target settings).length := by
    simp [report, lists, hstandard, hheader, hroom hlinks, hroom hoptions]
  obtain ⟨hreport, hrest⟩ := List.append_inj h hlength
  have hlist (setting : ListSetting) := congrArg (List.flatMap (Statement.appended setting)) hreport
  refine ⟨?_, ?_, hrest⟩
  · simpa only [appended_report _ _ _ .linkLibraries rfl] using hlist .linkLibraries
  · simpa only [appended_report _ _ _ .linkOptions rfl] using hlist .linkOptions

theorem dependStatements_eq (s : Store) (project : Project) :
    dependStatements s project = if project.dependencies = [] then []
      else [.depend project.name (project.dependencies.map fun d => (s.project d).name)] := by
  unfold dependStatements
  cases project.dependencies <;> rfl

namespace Setting

variable {x : Setting} {s : Store} {project : Project}

theorem Resolves.nil : x.Resolves s [] [] := ⟨rfl, fun _ h => absurd h List.not_mem_nil⟩

theorem Resolves.cons {c : ConfigurationId} {r : Resolved} {cs : List ConfigurationId}
    {resolved : List (ConfigurationId × Resolved)} (h : x.resolve s c = .ok r)
    (hs : x.Resolves s cs resolved) : x.Resolves s (c :: cs) ((c, r) :: resolved) := by
  refine ⟨by rw [List.map_cons, hs.1], fun entry hentry => ?_⟩
  rcases List.mem_cons.mp hentry with rfl | hentry
  · exact h
  · exact hs.2 entry hentry

theorem Resolves.tail {c : ConfigurationId} {cs : List ConfigurationId}
    {entry : ConfigurationId × Resolved} {resolved : List (ConfigurationId × Resolved)}
    (h : x.Resolves s (c :: cs) (entry :: resolved)) :
    x.resolve s c = .ok entry.2 ∧ entry.1 = c ∧ x.Resolves s cs resolved := by
  obtain ⟨hmap, hall⟩ := h
  rw [List.map_cons, List.cons.injEq] at hmap
  obtain ⟨rfl, hmap⟩ := hmap
  exact ⟨hall entry List.mem_cons_self, rfl, hmap,
    fun e he => hall e (List.mem_cons_of_mem entry he)⟩

theorem Resolves.mem {cs : List ConfigurationId} {resolved : List (ConfigurationId × Resolved)}
    (h : x.Resolves s cs resolved) {entry : ConfigurationId × Resolved}
    (he : entry ∈ resolved) : entry.1 ∈ cs ∧ x.resolve s entry.1 = .ok entry.2 :=
  ⟨h.1 ▸ List.mem_map_of_mem he, h.2 entry he⟩

/-- Two emissions of configurations are the same if each of these is emitted alike. -/
theorem emitConfigurations_congr_emit {x' : Setting} {s' : Store} {project' : Project}
    {cs : List ConfigurationId}
    (h : ∀ c ∈ cs, x.emitConfiguration s project c = x'.emitConfiguration s' project' c) :
    x.emitConfigurations s project cs = x'.emitConfigurations s' project' cs := by
  induction cs with
  | nil => rfl
  | cons c rest ih =>
    rw [emitConfigurations, emitConfigurations, h c List.mem_cons_self,
      ih fun d hd => h d (List.mem_cons_of_mem c hd)]

theorem emitConfigurations_congr {x' : Setting} {cs : List ConfigurationId}
    (h : ∀ c ∈ cs, x.resolve s c = x'.resolve s c) :
    x.emitConfigurations s project cs = x'.emitConfigurations s project cs := by
  refine emitConfigurations_congr_emit fun c hc => ?_
  rw [emitConfiguration, emitConfiguration, h c hc]

theorem emitConfigurations_of_error {c : ConfigurationId} {e : RenderError}
    (h : x.resolve s c = .error e) (cs : List ConfigurationId) :
    x.emitConfigurations s project (c :: cs) = ⟨[], some e⟩ := by
  rw [emitConfigurations, emitConfiguration, h]
  rfl

theorem emitConfigurations_of_ok {c : ConfigurationId} {r : Resolved}
    (h : x.resolve s c = .ok r) (cs : List ConfigurationId) :
    x.emitConfigurations s project (c :: cs)
      = ⟨r.report project.name (s.configuration c) ++ (x.emitConfigurations s project cs).statements,
        (x.emitConfigurations s project cs).failure⟩ := by
  rw [emitConfigurations, emitConfiguration, h, ← Resolved.statements_eq_report]
  rfl

/-- The configurations get to their end iff all of them resolve. -/
theorem emitConfigurations_eq_iff {cs : List ConfigurationId} {statements : List Statement} :
    x.emitConfigurations s project cs = ⟨statements, none⟩ ↔
      ∃ resolved, x.Resolves s cs resolved ∧
        statements = resolved.flatMap fun entry =>
          entry.2.report project.name (s.configuration entry.1) := by
  induction cs generalizing statements with
  | nil =>
    constructor
    · intro h
      rw [emitConfigurations, Emission.empty, Emission.mk.injEq] at h
      exact ⟨[], .nil, h.1.symm⟩
    · rintro ⟨resolved, ⟨hmap, -⟩, rfl⟩
      rw [List.map_eq_nil_iff.mp hmap]
      rfl
  | cons c cs ih =>
    cases hr : x.resolve s c with
    | error e =>
      -- The emission ends here, so it neither got to its end nor did everything resolve.
      rw [emitConfigurations_of_error hr]
      constructor
      · intro h
        cases h
      · rintro ⟨resolved, hres, -⟩
        cases resolved with
        | nil => cases hres.1
        | cons entry resolved =>
          rw [hres.tail.1] at hr
          cases hr
    | ok r =>
      rw [emitConfigurations_of_ok hr]
      constructor
      · intro h
        obtain ⟨hstatements, hfailure⟩ := Emission.mk.inj h
        have hrest : x.emitConfigurations s project cs
            = ⟨(x.emitConfigurations s project cs).statements, none⟩ := by
          rw [← hfailure]
        obtain ⟨resolved, hres, heq⟩ := ih.mp hrest
        exact ⟨(c, r) :: resolved, hres.cons hr, by rw [List.flatMap_cons, ← heq, hstatements]⟩
      · rintro ⟨resolved, hres, rfl⟩
        cases resolved with
        | nil => cases hres.1
        | cons entry resolved =>
          obtain ⟨hentry, rfl, hrest⟩ := hres.tail
          rw [hentry, Except.ok.injEq] at hr
          rw [ih.mpr ⟨resolved, hrest, rfl⟩, List.flatMap_cons, hr]

theorem script_eq_ok_iff {e : Emission} {text : String} :
    e.script = .ok text ↔ e = ⟨e.statements, none⟩ ∧ text = Script.render e.statements := by
  obtain ⟨statements, failure⟩ := e
  cases failure with
  | none => exact ⟨fun h => ⟨rfl, (Except.ok.inj h).symm⟩, fun h => congrArg Except.ok h.2.symm⟩
  | some failure =>
    constructor
    · intro h
      cases h
    · rintro ⟨h, -⟩
      cases h

theorem script_eq_error_iff {e : Emission} {failure : RenderError} :
    e.script = .error failure ↔ e.failure = some failure := by
  obtain ⟨statements, found⟩ := e
  cases found with
  | none => exact iff_of_false (fun h => by cases h) fun h => by cases h
  | some found =>
    exact ⟨fun h => congrArg some (Except.error.inj h), fun h => congrArg _ (Option.some.inj h)⟩

/-- A script starts with the project, and then speaks of the configurations. -/
theorem emit_eq (x : Setting) (s : Store) (p : ProjectId) :
    x.emit s p
      = ⟨(declareStatement (s.project p) :: dependStatements s (s.project p))
          ++ (x.emitConfigurations s (s.project p) (s.project p).configurations).statements,
        (x.emitConfigurations s (s.project p) (s.project p).configurations).failure⟩ := rfl

theorem report_eq (s : Store) (project : Project)
    (resolved : List (ConfigurationId × Resolved)) :
    project.report s resolved = (declareStatement project :: dependStatements s project)
      ++ resolved.flatMap fun entry =>
        entry.2.report project.name (s.configuration entry.1) := by
  rw [Project.report, dependStatements_eq]
  rfl

theorem emit_eq_report_iff {p : ProjectId} {statements : List Statement} :
    x.emit s p = ⟨statements, none⟩ ↔
      ∃ resolved, x.Resolves s (s.project p).configurations resolved ∧
        statements = (s.project p).report s resolved := by
  rw [emit_eq, Emission.mk.injEq]
  constructor
  · rintro ⟨rfl, hfailure⟩
    have hend : x.emitConfigurations s (s.project p) (s.project p).configurations
        = ⟨(x.emitConfigurations s (s.project p) (s.project p).configurations).statements,
          none⟩ := by
      rw [← hfailure]
    obtain ⟨resolved, hres, heq⟩ := emitConfigurations_eq_iff.mp hend
    exact ⟨resolved, hres, by rw [report_eq, heq]⟩
  · rintro ⟨resolved, hres, rfl⟩
    rw [emitConfigurations_eq_iff.mpr ⟨resolved, hres, rfl⟩, report_eq]
    exact ⟨rfl, rfl⟩

/-- **A script is rendered iff all configurations resolve, and then it is the report.** -/
theorem renderProject_eq_ok_iff {p : ProjectId} {text : String} :
    x.renderProject s p = .ok text ↔
      ∃ resolved, x.Resolves s (s.project p).configurations resolved ∧
        x.emit s p = ⟨(s.project p).report s resolved, none⟩ ∧
        text = Script.render ((s.project p).report s resolved) := by
  rw [renderProject, script_eq_ok_iff]
  constructor
  · rintro ⟨hend, rfl⟩
    obtain ⟨resolved, hres, heq⟩ := emit_eq_report_iff.mp hend
    rw [heq] at hend ⊢
    exact ⟨resolved, hres, hend, rfl⟩
  · rintro ⟨resolved, -, hend, rfl⟩
    rw [hend]
    exact ⟨rfl, rfl⟩

end Setting

/-! ## A sample -/

/-- An executable and the library that it depends on, both under two build types. -/
def Sample.store : Store where
  projects := [
    { name := "say \"hi\"", location := .ofString "/w/app", files := ["a b.cpp", "c\\d.cpp"],
      dependencies := [⟨1⟩], configurations := [⟨0⟩, ⟨1⟩] },
    { name := "core", kind := .sharedLibrary, location := .ofString "/w/core",
      configurations := [⟨2⟩, ⟨3⟩] }]
  configurations := [
    ⟨{ name := "Debug", outputDir := "bin/Debug", defines := ["GREETING=\"a b\"", "x>y,${z}"],
       links := ["core", "m"], dialect := "gnu++14", pic := .on, pchHeader := some "pch (1).h",
       toolset := some "gcc" }, some ⟨0⟩⟩,
    ⟨{ name := "Release", outputDir := "bin/Release", includeDirs := ["in\tc\n", ""],
       toolset := some "gcc", symbols := some false }, some ⟨0⟩⟩,
    ⟨{ name := "Debug", outputDir := "bin/Debug" }, some ⟨1⟩⟩,
    ⟨{ name := "Release", outputDir := "bin/Release" }, some ⟨1⟩⟩]

/-- Nothing is on the disk, and the process works at the top of the tree. -/
def Sample.setting : Setting := { host := ⟨.empty, []⟩ }

end CMakeGen
