import CMakeGen.Proofs.Emission.Owned

/-!
# What can be missing

Much is looked up for a configuration, and **only two things can be missing: its toolset and its
dialect** (`resolve_of_canRender`, `resolve_of_not_canRender`). Links, flags and paths are computed
from what is there, and the search for a header ends with a spelling even if every question about a
file fails. The toolset is looked for first, so it is the one that is missed if both are.
-/

namespace CMakeGen

/-- The labels of the dialects that have a standard. -/
def Dialect.labels : List String :=
  ["C++98", "C++11", "C++14", "C++17", "C++20",
    "gnu++98", "gnu++11", "gnu++14", "gnu++17", "gnu++20"]

theorem Dialect.map_label_all : all.map (·.label) = labels := by decide

theorem Dialect.exists_ofLabel {label : String} (h : label ∈ labels) :
    ∃ dialect, ofLabel label = .ok dialect := by
  obtain ⟨dialect, hmem, rfl⟩ := List.mem_map.mp (map_label_all ▸ h)
  have hsome : (all.find? (·.label = dialect.label)).isSome :=
    List.find?_isSome.mpr ⟨dialect, hmem, decide_eq_true rfl⟩
  obtain ⟨found, hfound⟩ := Option.isSome_iff_exists.mp hsome
  exact ⟨found, by rw [ofLabel, hfound]⟩

theorem Dialect.ofLabel_of_not_mem {label : String} (h : label ∉ labels) :
    ofLabel label = .error (.unmappedDialect label) := by
  have hnone : all.find? (·.label = label) = none :=
    List.find?_eq_none.mpr fun dialect hmem => by
      simpa using fun heq => h (map_label_all ▸ List.mem_map.mpr ⟨dialect, hmem, heq⟩)
  rw [ofLabel, hnone]

namespace Setting

variable {x : Setting} {s : Store} {p : ProjectId} {c : ConfigurationId}

/-- The first of the override, the toolset of the configuration and the default that says
anything. -/
def askedToolset (x : Setting) (settings : Configuration) : String :=
  (([x.override, settings.toolset].filterMap id).find? (· ≠ "")).getD "clang"

theorem chosenToolset_eq (x : Setting) (settings : Configuration) :
    chosenToolset x.override settings = x.askedToolset settings := by
  rw [chosenToolset, askedToolset]
  cases x.override with
  | none =>
    cases settings.toolset with
    | none => rfl
    | some toolset => by_cases h : toolset = "" <;> simp [h, Option.filter_some, defaultToolset]
  | some override =>
    by_cases ho : override = ""
    · cases settings.toolset with
      | none => simp [ho, Option.filter_some, defaultToolset]
      | some toolset =>
        by_cases h : toolset = "" <;> simp [ho, h, Option.filter_some, defaultToolset]
    · simp [ho, Option.filter_some]

/-- The toolset is known, and so is the dialect if there is one. -/
def CanRender (x : Setting) (settings : Configuration) : Prop :=
  x.registry.contains (x.askedToolset settings) = true ∧
    (settings.dialect = "" ∨ settings.dialect ∈ Dialect.labels)

instance (x : Setting) (settings : Configuration) : Decidable (x.CanRender settings) :=
  inferInstanceAs (Decidable (_ ∧ _))

/-- The complaint about a configuration that cannot be rendered. A missing toolset counts before
a missing dialect. -/
def refusal (x : Setting) (s : Store) (c : ConfigurationId) : RenderError :=
  .diagnosed ⟨
    if x.registry.contains (x.askedToolset (s.configuration c)) then
      .unmappedDialect (s.configuration c).dialect
    else .unknownToolset (x.askedToolset (s.configuration c)),
    some (s.describe c)⟩

/-! ## One configuration -/

theorem exists_resolve_registry (hr : x.registry.Built)
    (h : x.registry.contains (x.askedToolset (s.configuration c)) = true) :
    ∃ t, x.registry.get? (x.askedToolset (s.configuration c)) = some t ∧
      x.registry.resolve s x.override c = .ok t := by
  rw [← hr.isSome_get?] at h
  obtain ⟨t, ht⟩ := Option.isSome_iff_exists.mp h
  refine ⟨t, ht, ?_⟩
  rw [Registry.resolve, chosenToolset_eq, Registry.get, ht]

theorem exists_standard {settings : Configuration}
    (h : settings.dialect = "" ∨ settings.dialect ∈ Dialect.labels) :
    ∃ standard, Standard.ofLabel settings.dialect settings.pic = .ok standard := by
  rw [Standard.ofLabel]
  split
  · exact ⟨none, rfl⟩
  · next hne =>
    obtain ⟨dialect, hdialect⟩ := Dialect.exists_ofLabel (h.resolve_left hne)
    rw [hdialect]
    exact ⟨_, rfl⟩

section

variable {project : Project} (howner : s.owner? c = some project)

include howner

theorem exists_resolveLinks (fs : FileSystem) (cwd : Location) (entries : List String) :
    ∃ links, resolveLinks fs cwd s c entries = .ok links := by
  rw [resolveLinks, howner]
  exact ⟨_, rfl⟩

theorem resolve_of_canRender (hr : x.registry.Built) (h : x.CanRender (s.configuration c)) :
    ∃ r, x.resolve s c = .ok r := by
  obtain ⟨t, -, htoolset⟩ := exists_resolve_registry hr h.1
  obtain ⟨standard, hstandard⟩ := exists_standard h.2
  obtain ⟨links, hlinks⟩ :=
    exists_resolveLinks howner x.fs x.host.cwd (t.links s x.host.cwd c)
  -- The search for a header never fails, whatever the disk answers.
  have hheader := searchHeader_of_owner howner x.fs x.host
  exact ⟨⟨t, standard, links, (s.configuration c).linkOptions ++ t.ldflags s c, _⟩,
    resolve_eq_ok_iff.mpr ⟨htoolset, hstandard, hlinks, rfl, hheader⟩⟩

end

/-- What is missing where a configuration does not resolve: its toolset, its dialect or its owner, in
the order in which they are looked for. None of them is looked for on the disk. -/
theorem resolve_eq_error_iff {e : RenderError} :
    x.resolve s c = .error e ↔
      (∃ d, x.registry.resolve s x.override c = .error d ∧ e = .diagnosed d) ∨
      ∃ t, x.registry.resolve s x.override c = .ok t ∧
        ((∃ problem,
            Standard.ofLabel (s.configuration c).dialect (s.configuration c).pic = .error problem ∧
              e = .diagnosed ⟨problem, some (s.describe c)⟩) ∨
          ∃ standard,
            Standard.ofLabel (s.configuration c).dialect (s.configuration c).pic = .ok standard ∧
              s.owner? c = none ∧ e = .detached (s.configuration c).name) := by
  constructor
  · intro h
    rw [resolve] at h
    rcases bind_eq_error h with h | ⟨t, ht, h⟩
    · exact .inl (mapError_eq_error h)
    refine .inr ⟨t, mapError_eq_ok_iff.mp ht, ?_⟩
    rcases bind_eq_error h with h | ⟨standard, hstandard, h⟩
    · exact .inl (mapError_eq_error h)
    refine .inr ⟨standard, mapError_eq_ok_iff.mp hstandard, ?_⟩
    cases howner : s.owner? c with
    | none =>
      rw [resolveLinks, howner] at h
      exact ⟨rfl, (Except.error.inj h).symm⟩
    | some project =>
      -- With a project to look in, nothing more can go wrong.
      obtain ⟨links, hlinks⟩ :=
        exists_resolveLinks howner x.fs x.host.cwd (t.links s x.host.cwd c)
      rw [hlinks, searchHeader_of_owner howner] at h
      cases h
  · rintro (⟨d, hd, rfl⟩ | ⟨t, ht, ⟨problem, hproblem, rfl⟩ | ⟨standard, hstandard, howner, rfl⟩⟩)
    · rw [resolve, hd]
      rfl
    · rw [resolve, ht, hproblem]
      rfl
    · rw [resolve, ht, hstandard]
      change (resolveLinks x.fs x.host.cwd s c (t.links s x.host.cwd c) >>= _) = _
      rw [resolveLinks, howner]
      rfl

theorem resolve_of_not_canRender (hr : x.registry.Built)
    (h : ¬ x.CanRender (s.configuration c)) : x.resolve s c = .error (x.refusal s c) := by
  rw [resolve_eq_error_iff, refusal]
  cases hknown : x.registry.contains (x.askedToolset (s.configuration c)) with
  | false =>
    have hnone := Registry.get?_eq_none_of_not_contains hknown
    refine .inl ⟨_, ?_, rfl⟩
    rw [Registry.resolve, chosenToolset_eq, Registry.get, hnone]
    rfl
  | true =>
    obtain ⟨t, -, htoolset⟩ := exists_resolve_registry hr hknown
    have hdialect := not_or.mp fun hok => h ⟨hknown, hok⟩
    refine .inr ⟨t, htoolset, .inl ⟨_, ?_, rfl⟩⟩
    rw [Standard.ofLabel, if_neg hdialect.1, Dialect.ofLabel_of_not_mem hdialect.2]
    rfl

/-! ## One after the other -/

theorem exists_resolves (hr : x.registry.Built) {cs : List ConfigurationId}
    (howner : ∀ c ∈ cs, ∃ project, s.owner? c = some project)
    (h : ∀ c ∈ cs, x.CanRender (s.configuration c)) : ∃ resolved, x.Resolves s cs resolved := by
  induction cs with
  | nil => exact ⟨[], .nil⟩
  | cons c rest ih =>
    obtain ⟨project, hproject⟩ := howner c List.mem_cons_self
    obtain ⟨r, hresolve⟩ := resolve_of_canRender hproject hr (h c List.mem_cons_self)
    obtain ⟨resolved, hrest⟩ := ih (fun d hd => howner d (List.mem_cons_of_mem c hd))
      fun d hd => h d (List.mem_cons_of_mem c hd)
    exact ⟨_, hrest.cons hresolve⟩

theorem emitConfigurations_append (x : Setting) (s : Store) (project : Project)
    (xs ys : List ConfigurationId) :
    x.emitConfigurations s project (xs ++ ys)
      = (x.emitConfigurations s project xs).append (x.emitConfigurations s project ys) := by
  induction xs with
  | nil => rfl
  | cons c rest ih =>
    rw [List.cons_append, emitConfigurations, ih, emitConfigurations]
    obtain ⟨statements, _ | failure⟩ := x.emitConfiguration s project c
    · obtain ⟨statements', _ | failure'⟩ := x.emitConfigurations s project rest
      · simp only [Emission.append, List.append_assoc]
      · rfl
    · rfl

theorem exists_first {cs : List ConfigurationId}
    (h : ¬ ∀ c ∈ cs, x.CanRender (s.configuration c)) :
    ∃ before c after, cs = before ++ c :: after ∧
      (∀ b ∈ before, x.CanRender (s.configuration b)) ∧ ¬ x.CanRender (s.configuration c) := by
  cases hfind : cs.find? fun c => ¬ x.CanRender (s.configuration c) with
  | none => exact absurd (by simpa using hfind) h
  | some c =>
    obtain ⟨hc, before, after, hsplit, hbefore⟩ := List.find?_eq_some_iff_append.mp hfind
    exact ⟨before, c, after, hsplit, by simpa using hbefore, by simpa using hc⟩

theorem emit_of_error {before after : List ConfigurationId} {e : RenderError}
    {resolved : List (ConfigurationId × Resolved)}
    (hsplit : (s.project p).configurations = before ++ c :: after)
    (hbefore : x.Resolves s before resolved) (hc : x.resolve s c = .error e) :
    x.emit s p = ⟨(s.project p).report s resolved, some e⟩ := by
  have hfirst : x.emitConfigurations s (s.project p) before = ⟨_, none⟩ :=
    emitConfigurations_eq_iff.mpr ⟨resolved, hbefore, rfl⟩
  rw [emit_eq, hsplit, emitConfigurations_append, hfirst, emitConfigurations_of_error hc, report_eq]
  simp only [Emission.append, List.append_nil]

end Setting

end CMakeGen
