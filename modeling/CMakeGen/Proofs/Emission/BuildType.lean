import CMakeGen.Proofs.Emission.Report
import CMakeGen.Proofs.Model.Store
import CMakeGen.Proofs.Script.Execution

/-!
# One build type at a time

A script speaks of all configurations of a project, and a build runs under one build type. **What is
in effect then is what the configuration of that name asks for, and nothing of the others**
(`execute_emit`).

The argument is a frame argument. A configuration says two kinds of things: where the target is
written, which counts under every build type, and everything else, which is guarded. So the
configurations of another name agree with saying nothing (`agree_foldl_effect`) as long as nobody
asks for the directories, and these are left to `Proofs/Emission/OutputDirectory.lean`.
-/

namespace CMakeGen

open Script

/-! ## The effect of a configuration -/

/-- The effect of what a configuration says under its own build type alone. -/
def Resolved.guardedEffect (r : Resolved) (settings : Configuration) (e : Effect) : Effect :=
  (((r.lists settings).foldl (fun e (setting, values) => e.append setting values)
    e).setProperties (r.standard.toList.flatMap standardEntries)).precompile r.header.path?.toList

/-- The effect of everything that a configuration says. -/
def Resolved.effect (buildType : String) (r : Resolved) (settings : Configuration) (e : Effect) :
    Effect :=
  let e := e.setDirectory settings.outputDir
  if settings.name = buildType then r.guardedEffect settings e else e

section

variable {buildType : String}

theorem foldl_append_statements (target configuration : String)
    (lists : List (ListSetting × List String)) (e : Effect) :
    (lists.flatMap fun (setting, values) => if values = [] then []
        else [Statement.append setting target configuration values]).foldl
        (fun e s => s.effect buildType target e) e
      = if configuration = buildType then
          lists.foldl (fun e (setting, values) => e.append setting values) e
        else e := by
  induction lists generalizing e with
  | nil => simp
  | cons entry rest ih =>
    obtain ⟨setting, values⟩ := entry
    rw [List.flatMap_cons, List.foldl_append, ih]
    by_cases hvalues : values = [] <;> by_cases h : configuration = buildType <;>
      simp [hvalues, h, Statement.effect]

theorem foldl_standard_statements (target configuration : String) (standard : Option Standard)
    (e : Effect) :
    (standard.toList.map (Statement.standard target configuration)).foldl
        (fun e s => s.effect buildType target e) e
      = if configuration = buildType then
          e.setProperties (standard.toList.flatMap standardEntries)
        else e := by
  cases standard with
  | none => exact (ite_self e).symm
  | some value => by_cases h : configuration = buildType <;> simp [h, Statement.effect]

theorem foldl_precompile_statements (target configuration : String) (header : Option String)
    (e : Effect) :
    (header.toList.map (Statement.precompile target configuration)).foldl
        (fun e s => s.effect buildType target e) e
      = if configuration = buildType then e.precompile header.toList else e := by
  cases header with
  | none => simp [Effect.precompile]
  | some path => by_cases h : configuration = buildType <;> simp [h, Statement.effect]

/-- The statements about a configuration have its effect. -/
theorem Resolved.foldl_report (r : Resolved) (target : String) (settings : Configuration)
    (e : Effect) :
    (r.report target settings).foldl (fun e s => s.effect buildType target e) e
      = r.effect buildType settings e := by
  rw [report, List.foldl_append, List.foldl_append, List.foldl_append,
    foldl_append_statements, foldl_standard_statements, foldl_precompile_statements]
  unfold effect guardedEffect
  by_cases h : settings.name = buildType <;> simp [h, Statement.effect]

/-- A script has the effect of the configurations that it speaks of, one after the other. -/
theorem execute_report (s : Store) (project : Project)
    (resolved : List (ConfigurationId × Resolved)) :
    execute buildType project.name (project.report s resolved)
      = resolved.foldl (fun e entry =>
          entry.2.effect buildType (s.configuration entry.1) e) .initial := by
  have hconfigurations (e : Effect) :
      (resolved.flatMap fun entry => entry.2.report project.name (s.configuration entry.1)).foldl
        (fun e s => s.effect buildType project.name e) e
      = resolved.foldl (fun e entry =>
          entry.2.effect buildType (s.configuration entry.1) e) e := by
    induction resolved generalizing e with
    | nil => rfl
    | cons entry rest ih =>
      rw [List.flatMap_cons, List.foldl_append, Resolved.foldl_report, ih]
      rfl
  rw [execute_eq_foldl, Project.report, List.foldl_append, List.foldl_append, hconfigurations]
  by_cases h : project.dependencies = [] <;> simp [h, Statement.effect]

/-! ## The frame -/

/-- Two effects that differ in nothing but where the target is written. -/
structure Script.Effect.Agree (e e' : Effect) : Prop where
  values : e.values = e'.values
  properties : ∀ property, property ∉ outputDirectoryProperties →
    e.properties property = e'.properties property
  headers : e.headers = e'.headers

namespace Script.Effect

theorem Agree.refl (e : Effect) : e.Agree e := ⟨rfl, fun _ _ => rfl, rfl⟩

theorem Agree.trans {e₁ e₂ e₃ : Effect} (h : e₁.Agree e₂) (h' : e₂.Agree e₃) : e₁.Agree e₃ :=
  ⟨h.values.trans h'.values, fun p hp => (h.properties p hp).trans (h'.properties p hp),
    h.headers.trans h'.headers⟩

/-- Where the target is written is outside the frame. -/
theorem agree_setDirectory (e : Effect) (directory : String) :
    (e.setDirectory directory).Agree e := by
  refine ⟨values_setProperties e _, fun property hp => ?_, headers_setProperties e _⟩
  refine properties_setProperties_of_not_mem e ?_
  rwa [List.map_map, show Prod.fst ∘ (fun property : String => (property, directory)) = id from rfl,
    List.map_id]

end Script.Effect

theorem Resolved.agree_effect {settings : Configuration} (h : settings.name ≠ buildType)
    (r : Resolved) (e : Effect) : (r.effect buildType settings e).Agree e := by
  rw [effect, if_neg h]
  exact e.agree_setDirectory settings.outputDir

/-- Configurations of other names agree with saying nothing. -/
theorem agree_foldl_effect (s : Store) {resolved : List (ConfigurationId × Resolved)}
    (h : ∀ entry ∈ resolved, (s.configuration entry.1).name ≠ buildType) (e : Effect) :
    (resolved.foldl (fun e entry =>
      entry.2.effect buildType (s.configuration entry.1) e) e).Agree e := by
  induction resolved generalizing e with
  | nil => exact .refl e
  | cons entry rest ih =>
    have hrest := ih (fun entry hentry => h entry (List.mem_cons_of_mem _ hentry))
      (entry.2.effect buildType (s.configuration entry.1) e)
    exact hrest.trans (entry.2.agree_effect (h entry List.mem_cons_self) e)

end

/-! ## The configuration that counts -/

section

variable (r : Resolved) (settings : Configuration) (e : Effect)

/-- Where there are no values yet, each list gets what the configuration has for it. -/
theorem Resolved.values_guardedEffect (he : e.values = fun _ => [])
    {setting : ListSetting} {values : List String} (h : (setting, values) ∈ r.lists settings) :
    (r.guardedEffect settings e).values setting = values := by
  have hvalues : (r.guardedEffect settings e).values
      = ((r.lists settings).foldl (fun e (setting, values) => e.append setting values) e).values :=
    Effect.values_setProperties _ _
  rw [hvalues]
  simp only [lists, List.mem_cons, Prod.mk.injEq, List.not_mem_nil, or_false] at h
  rcases h with ⟨rfl, rfl⟩ | ⟨rfl, rfl⟩ | ⟨rfl, rfl⟩ | ⟨rfl, rfl⟩ | ⟨rfl, rfl⟩ <;>
    simp [lists, Effect.append, he]

theorem Resolved.headers_guardedEffect :
    (r.guardedEffect settings e).headers = e.headers ++ r.header.path?.toList := by
  show (((r.lists settings).foldl _ e).setProperties _).headers ++ _ = _
  rw [Effect.headers_setProperties]
  rfl

theorem nodup_standardEntries (standard : Standard) :
    ((standardEntries standard).map Prod.fst).Nodup := by
  show ["CXX_STANDARD", "CXX_STANDARD_REQUIRED", "CXX_EXTENSIONS",
    "POSITION_INDEPENDENT_CODE"].Nodup
  decide

/-- A standard says four things, and no standard leaves them alone. -/
theorem Resolved.properties_guardedEffect {property : String} {value : Standard → String}
    (h : ∀ standard, (property, value standard) ∈ standardEntries standard)
    (hunset : e.properties property = none) :
    (r.guardedEffect settings e).properties property = r.standard.map value := by
  show (((r.lists settings).foldl _ e).setProperties _).properties property = _
  cases r.standard with
  | none => exact hunset
  | some standard =>
    rw [Option.toList_some, List.flatMap_singleton]
    exact Effect.properties_setProperties_of_mem _ (nodup_standardEntries standard) (h standard)

end

/-- What is in effect is what a configuration asks for, with everything that has to be looked
up. -/
structure Setting.Meets (x : Setting) (s : Store) (c : ConfigurationId) (e : Effect) : Prop where
  includeDirectories : e.values .includeDirectories = (s.configuration c).includeDirs
  compileDefinitions : e.values .compileDefinitions = (s.configuration c).defines
  linkDirectories : e.values .linkDirectories = (s.configuration c).libDirs
  links : ∃ toolset, x.registry.resolve s x.override c = .ok toolset ∧
    resolveLinks x.fs x.host.cwd s c (toolset.links s x.host.cwd c)
      = .ok (e.values .linkLibraries) ∧
    e.values .linkOptions = (s.configuration c).linkOptions ++ toolset.ldflags s c
  standard : ∃ standard,
    Standard.ofLabel (s.configuration c).dialect (s.configuration c).pic = .ok standard ∧
    e.properties "CXX_STANDARD" = standard.map (·.level.repr) ∧
    e.properties "CXX_STANDARD_REQUIRED" = standard.map (yesNo ·.required) ∧
    e.properties "CXX_EXTENSIONS" = standard.map (yesNo ·.extensions) ∧
    e.properties "POSITION_INDEPENDENT_CODE" = standard.map (trueFalse ·.pic)
  header : ∃ found, searchHeader x.fs x.host s c = .ok found ∧ e.headers = found.path?.toList

namespace Setting

variable {x : Setting} {s : Store}

/-- Where nothing has been said before but where the target is written, a configuration gets
what it asks for. -/
theorem meets_effect {c : ConfigurationId} {r : Resolved} (hr : x.resolve s c = .ok r)
    {e : Effect} (he : e.Agree .initial) {e' : Effect}
    (he' : e'.Agree (r.effect (s.configuration c).name (s.configuration c) e)) :
    x.Meets s c e' := by
  obtain ⟨htoolset, hstandard, hlinks, hoptions, hheader⟩ := resolve_eq_ok_iff.mp hr
  have hstart := (e.agree_setDirectory (s.configuration c).outputDir).trans he
  -- From here on only the guarded effect is left, on top of an effect without values.
  rw [Resolved.effect, if_pos rfl] at he'
  have hvalues {setting : ListSetting} {values : List String}
      (h : (setting, values) ∈ r.lists (s.configuration c)) : e'.values setting = values := by
    rw [he'.values]
    exact r.values_guardedEffect _ _ hstart.values h
  have hproperty {property : String} {value : Standard → String}
      (h : ∀ standard, (property, value standard) ∈ standardEntries standard)
      (hp : property ∉ outputDirectoryProperties) :
      e'.properties property = r.standard.map value :=
    (he'.properties property hp).trans
      (r.properties_guardedEffect _ _ h (hstart.properties property hp))
  have hlibraries : e'.values .linkLibraries = r.links := hvalues (by simp [Resolved.lists])
  have hheaders : e'.headers = r.header.path?.toList := by
    rw [he'.headers, Resolved.headers_guardedEffect, hstart.headers]
    rfl
  exact {
    includeDirectories := hvalues (by simp [Resolved.lists])
    compileDefinitions := hvalues (by simp [Resolved.lists])
    linkDirectories := hvalues (by simp [Resolved.lists])
    links := ⟨r.toolset, htoolset, by rw [hlibraries, hlinks],
      (hvalues (by simp [Resolved.lists])).trans hoptions⟩
    standard := ⟨r.standard, hstandard,
      hproperty (fun _ => by simp [standardEntries]) (by decide),
      hproperty (fun _ => by simp [standardEntries]) (by decide),
      hproperty (fun _ => by simp [standardEntries]) (by decide),
      hproperty (fun _ => by simp [standardEntries]) (by decide)⟩
    header := ⟨r.header, hheader, hheaders⟩ }

/-- The configuration of a name stands between configurations of other names. -/
theorem Resolves.split {cs : List ConfigurationId} {resolved : List (ConfigurationId × Resolved)}
    (h : x.Resolves s cs resolved) (hnodup : (cs.map fun c => (s.configuration c).name).Nodup)
    {c : ConfigurationId} (hc : c ∈ cs) :
    ∃ before r after, resolved = before ++ (c, r) :: after ∧ x.resolve s c = .ok r ∧
      (∀ entry ∈ before, (s.configuration entry.1).name ≠ (s.configuration c).name) ∧
      ∀ entry ∈ after, (s.configuration entry.1).name ≠ (s.configuration c).name := by
  obtain ⟨⟨c', r⟩, hentry, rfl⟩ := List.mem_map.mp (h.1 ▸ hc)
  obtain ⟨before, after, rfl⟩ := List.append_of_mem hentry
  -- No two names are the same, so neither those before nor those after are this one.
  rw [← h.1] at hnodup
  simp only [List.map_append, List.map_cons, List.map_map, List.nodup_append, List.nodup_cons,
    List.mem_map, List.mem_cons] at hnodup
  obtain ⟨-, ⟨hafter, -⟩, hbefore⟩ := hnodup
  refine ⟨before, r, after, rfl, (h.mem hentry).2, fun entry he heq => ?_, fun entry he heq => ?_⟩
  · exact hbefore _ ⟨entry, he, rfl⟩ _ (Or.inl rfl) heq
  · exact hafter ⟨entry, he, heq⟩

/-- **Under a build type, the configuration of that name is in effect and no other one is.** -/
theorem execute_emit {p : ProjectId} {text : String} (h : x.renderProject s p = .ok text)
    (hnodup : ((s.project p).configurations.map fun c => (s.configuration c).name).Nodup)
    (buildType : String) :
    match s.findConfiguration (s.project p) buildType with
    | some c => x.Meets s c (execute buildType (s.project p).name (x.emit s p).statements)
    | none => (execute buildType (s.project p).name (x.emit s p).statements).Agree .initial := by
  obtain ⟨resolved, hres, hemit, -⟩ := renderProject_eq_ok_iff.mp h
  rw [hemit, execute_report]
  split
  · next c hfind =>
    have hname := Store.name_of_findConfiguration hfind
    obtain ⟨before, r, after, rfl, hr, hbefore, hafter⟩ :=
      hres.split hnodup (List.mem_of_find?_eq_some hfind)
    rw [hname] at hbefore hafter
    -- Before and behind the configuration of that name, nothing happens inside the frame.
    rw [List.foldl_append, List.foldl_cons]
    subst hname
    exact meets_effect hr (agree_foldl_effect s hbefore _) (agree_foldl_effect s hafter _)
  · next hfind =>
    refine agree_foldl_effect s (fun entry hentry => ?_) _
    have := List.find?_eq_none.mp hfind entry.1 (hres.mem hentry).1
    simpa using this

/-- The second of two configurations is in effect under its name. -/
theorem execute_emit_sample : Sample.setting.Meets Sample.store ⟨1⟩
    (execute "Release" "say \"hi\"" (Sample.setting.emit Sample.store ⟨0⟩).statements) := by
  have hok : (Sample.setting.renderProject Sample.store ⟨0⟩).isOk = true := by decide
  have hfind : Sample.store.findConfiguration (Sample.store.project ⟨0⟩) "Release" = some ⟨1⟩ := by
    decide
  obtain ⟨text, h⟩ := exists_ok_of_isOk hok
  have hmeets := execute_emit h (by decide) "Release"
  rw [hfind] at hmeets
  exact hmeets

end Setting

end CMakeGen
