import CMakeGen.Proofs.Emission.Renderable
import CMakeGen.Proofs.Workspace.WellFormed
import Mathlib.Data.List.Find

/-!
# Where a script ends

A project is rendered iff all of its configurations name a known toolset and a known dialect, and
otherwise **the first one that does not decides the error** (`emit_stopsAtFirst`). What was written by
then is the whole script of the project cut down to the configurations in front of it.

The project that is cut down is a second one, which is as the first one but for its list
(`Store.excerpt`). The configurations on the list stay with the first one, so they resolve as they did,
under any toolset whatever.

The first one may also be cut down in its place (`Store.cut`), and then everybody sees the shorter list.
That is less harmless than it looks, since a project may link itself and look its own names up. A
configuration in front of the cut finds itself there, with or without the others (`find?_cut`). But a
toolset is handed the whole project, and only one that goes by what the project is and not by what it
lists gives the same names and flags; those of the standard registry do.
-/

namespace CMakeGen

/-- The script of a project begins with what is the script of another one, in another store, if that
one lists the first of its configurations, these resolve as they did, and nothing else about it is
different. -/
theorem emit_of_shorter {x : Setting} {s s' : Store} {p q : ProjectId} {before : List ConfigurationId}
    {resolved : List (ConfigurationId × Resolved)} (h : x.Resolves s before resolved)
    (hlist : (s'.project q).configurations = before)
    (hresolve : ∀ c ∈ before, ∀ r, x.resolve s c = .ok r → x.resolve s' c = .ok r)
    (hreport : (s'.project q).report s' resolved = (s.project p).report s resolved) :
    x.emit s' q = ⟨(s.project p).report s resolved, none⟩ := by
  refine Setting.emit_eq_report_iff.mpr ⟨resolved, ⟨?_, fun entry hentry => ?_⟩, hreport.symm⟩
  · rw [hlist, h.1]
  · obtain ⟨hmem, hr⟩ := h.mem hentry
    exact hresolve entry.1 hmem entry.2 hr

/-! ## A project next to it with a shorter list -/

/-- A store with one more project, which is as `p` but lists nothing but `configurations`. They go on
belonging to whom they belong to. -/
def Store.excerpt (s : Store) (p : ProjectId) (configurations : List ConfigurationId) :
    Store × ProjectId :=
  s.addProject { s.project p with configurations := configurations }

section

variable {x : Setting} {s : Store} {p : ProjectId} {before after : List ConfigurationId}
  {c : ConfigurationId} (new : Project)

/-- The dependencies of a project are in the store. -/
def Store.HoldsDependencies (s : Store) (p : ProjectId) : Prop :=
  ∀ d ∈ (s.project p).dependencies, d.index < s.projects.length

variable (hd : s.HoldsDependencies p)

include hd

theorem names_addProject :
    (s.project p).dependencies.map (fun d => ((s.addProject new).1.project d).name)
      = (s.project p).dependencies.map fun d => (s.project d).name := by
  refine List.map_congr_left fun d hmem => ?_
  rw [s.project_addProject_of_lt new (hd d hmem)]

theorem link_addProject (t : Toolset) (cwd : Location) (settings : Configuration)
    (entry : String) :
    t.link (s.addProject new).1 cwd (some (s.project p)) settings entry
      = t.link s cwd (some (s.project p)) settings entry := by
  have hfind : (s.addProject new).1.findDependency (s.project p) entry
      = s.findDependency (s.project p) entry :=
    List.find?_congr fun d hmem => by rw [s.project_addProject_of_lt new (hd d hmem)]
  rw [Toolset.link, Toolset.link, hfind]
  cases hfound : s.findDependency (s.project p) entry with
  | none => rfl
  | some d =>
    rw [Option.map_some, Option.map_some,
      s.project_addProject_of_lt new (hd d (List.mem_of_find?_eq_some hfound))]
    rfl

/-- **A configuration resolves to the same next to a new project.** -/
theorem resolve_addProject (hp : p.index < s.projects.length)
    (howner : (s.attachment c).owner = some p) :
    x.resolve (s.addProject new).1 c = x.resolve s c := by
  have howner₁ : s.owner? c = some (s.project p) := by
    rw [Store.owner?, howner]
    rfl
  have howner₂ : (s.addProject new).1.owner? c = some (s.project p) := by
    show (s.attachment c).owner.map _ = _
    rw [howner, Option.map_some, s.project_addProject_of_lt new hp]
  rw [Setting.resolve_of_owner howner₁, Setting.resolve_of_owner howner₂]
  exact Setting.settle_congr fun t _ entry _ =>
    link_addProject new hd t x.host.cwd (s.configuration c) entry

/-- The script of a project with a shorter list is the beginning of the script. -/
theorem emit_excerpt {resolved : List (ConfigurationId × Resolved)} (hs : s.Coherent)
    (hp : p.index < s.projects.length)
    (hsplit : (s.project p).configurations = before ++ after) (h : x.Resolves s before resolved) :
    x.emit (s.excerpt p before).1 (s.excerpt p before).2
      = ⟨(s.project p).report s resolved, none⟩ := by
  have hself : (s.excerpt p before).1.project (s.excerpt p before).2
      = { s.project p with configurations := before } := s.project_addProject_self _
  refine emit_of_shorter h (by rw [hself]) (fun c hc r hr => ?_) ?_
  · have hlisted : c ∈ (s.project p).configurations := by
      rw [hsplit]
      exact List.mem_append_left _ hc
    rw [← hr]
    exact resolve_addProject _ hd hp (hs.owned p c hlisted)
  · rw [hself, Project.report, Project.report]
    dsimp only
    rw [Store.excerpt, names_addProject _ hd]
    rfl

end

/-! ## The project itself with a shorter list -/

/-- The store in which a project lists nothing but `configurations`. -/
def Store.cut (s : Store) (p : ProjectId) (configurations : List ConfigurationId) : Store :=
  s.modifyProject p fun project => { project with configurations := configurations }

section

variable {x : Setting} {s : Store} {p : ProjectId} {before after : List ConfigurationId}
  {c : ConfigurationId} {t : Toolset}

theorem project_cut (s : Store) (p q : ProjectId) (cs : List ConfigurationId) :
    (s.cut p cs).project q = { s.project q with
      configurations := if q = p ∧ p.index < s.projects.length then cs
        else (s.project q).configurations } := by
  rw [Store.cut, Store.project_modifyProject]
  split <;> rfl

theorem describe_cut (s : Store) (p : ProjectId) (cs : List ConfigurationId)
    (c : ConfigurationId) : (s.cut p cs).describe c = s.describe c := by
  have howner : (s.cut p cs).owner? c = (s.attachment c).owner.map (s.cut p cs).project := rfl
  rw [Store.describe, Store.describe, howner, Store.owner?]
  cases (s.attachment c).owner with
  | none => rfl
  | some q => simp only [Option.map_some, project_cut]; rfl

theorem findDependency_cut (s : Store) (p q : ProjectId) (cs : List ConfigurationId)
    (name : String) :
    (s.cut p cs).findDependency ((s.cut p cs).project q) name
      = s.findDependency (s.project q) name := by
  simp only [Store.findDependency, project_cut]

/-- A configuration in front of the cut is found there, and so is one of its name. -/
theorem find?_cut (hc : c ∈ before) (after : List ConfigurationId) :
    (before ++ after).find? (fun d => (s.configuration d).name = (s.configuration c).name)
      = before.find? fun d => (s.configuration d).name = (s.configuration c).name := by
  have hsome : (before.find? fun d =>
      (s.configuration d).name = (s.configuration c).name).isSome :=
    List.find?_isSome.mpr ⟨c, hc, decide_eq_true rfl⟩
  obtain ⟨d, hd⟩ := Option.isSome_iff_exists.mp hsome
  rw [List.find?_append, hd]
  rfl

variable (hsplit : (s.project p).configurations = before ++ after) (hc : c ∈ before)

include hsplit hc

theorem linkedConfiguration?_cut (d : ProjectId) :
    Toolset.linkedConfiguration? (s.cut p before) ((s.cut p before).project d)
        (s.configuration c).name
      = Toolset.linkedConfiguration? s (s.project d) (s.configuration c).name := by
  rw [Toolset.linkedConfiguration?, Toolset.linkedConfiguration?, Store.findConfiguration,
    Store.findConfiguration, project_cut]
  by_cases hd : d = p ∧ p.index < s.projects.length
  · obtain ⟨rfl, hp⟩ := hd
    obtain ⟨e, he⟩ : ∃ e, before.find? (fun e =>
        (s.configuration e).name = (s.configuration c).name) = some e :=
      Option.isSome_iff_exists.mp (List.find?_isSome.mpr ⟨c, hc, decide_eq_true rfl⟩)
    simp only [hp, and_self, if_true]
    show ((before.find? fun e => (s.configuration e).name = (s.configuration c).name).or
      before.head?).map s.configuration = _
    rw [hsplit, find?_cut hc, he]
    rfl
  · rw [if_neg hd]
    rfl

theorem link_cut (ht : t.IgnoresLists) (cwd : Location) (q : ProjectId) (entry : String) :
    t.link (s.cut p before) cwd (some ((s.cut p before).project q)) (s.configuration c) entry
      = t.link s cwd (some (s.project q)) (s.configuration c) entry := by
  have hpath (d : ProjectId) :
      t.libraryPath (s.cut p before) ((s.cut p before).project d) (s.configuration c)
        = t.libraryPath s (s.project d) (s.configuration c) := by
    rw [Toolset.libraryPath, Toolset.libraryPath, linkedConfiguration?_cut hsplit hc,
      project_cut, ht.libraryName]
  rw [Toolset.link, Toolset.link, findDependency_cut]
  cases s.findDependency (s.project q) entry with
  | none => rfl
  | some d =>
    show (if ((s.cut p before).project d).kind.isLibrary then _ else _)
      = if (s.project d).kind.isLibrary then _ else _
    rw [Toolset.siblingPath, Toolset.siblingPath, hpath, project_cut s p d, project_cut s p q]

/-- **What a configuration resolves to does not hang on those behind it.** -/
theorem resolve_cut {r : Resolved} (howner : (s.attachment c).owner = some p)
    (hplain : ∀ identifier t, x.registry.get? identifier = some t → t.IgnoresLists)
    (h : x.resolve s c = .ok r) : x.resolve (s.cut p before) c = .ok r := by
  obtain ⟨htoolset, hstandard, hlinks, hoptions, hheader⟩ := Setting.resolve_eq_ok_iff.mp h
  have ht : r.toolset.IgnoresLists := hplain _ _ (Registry.get?_of_resolve htoolset)
  have howner₁ : s.owner? c = some (s.project p) := by
    rw [Store.owner?, howner]
    rfl
  have howner₂ : (s.cut p before).owner? c = some ((s.cut p before).project p) := by
    show (s.attachment c).owner.map _ = _
    rw [howner]
    rfl
  refine Setting.resolve_eq_ok_iff.mpr ⟨?_, hstandard, ?_, ?_, ?_⟩
  · rw [← htoolset, Registry.resolve, Registry.resolve, describe_cut]
    rfl
  · have hentries : r.toolset.links (s.cut p before) x.host.cwd c
        = r.toolset.links s x.host.cwd c := by
      rw [Toolset.links, Toolset.links, howner₁, howner₂]
      exact List.map_congr_left fun entry _ => link_cut hsplit hc ht x.host.cwd p entry
    rw [hentries, ← hlinks, resolveLinks, resolveLinks, howner₁, howner₂, project_cut]
  · rw [hoptions, Toolset.ldflags, Toolset.ldflags, howner₁, howner₂, project_cut]
    exact congrArg _ (ht.linkerFlags (s.project p) (s.configuration c) _).symm
  · rw [← hheader, searchHeader, searchHeader, howner₁, howner₂, project_cut]
    rfl

end

section

variable {x : Setting} {s : Store} {p : ProjectId} {before after : List ConfigurationId}

theorem configurations_cut (hsplit : (s.project p).configurations = before ++ after) :
    ((s.cut p before).project p).configurations = before := by
  rw [project_cut]
  by_cases hp : p.index < s.projects.length
  · simp only [hp, and_self, if_true]
  · -- Who is not there lists nothing, so there is nothing to cut.
    have hnone : (s.project p).configurations = [] := by
      rw [Store.project, List.getD_eq_getElem?_getD, List.getElem?_eq_none (Nat.le_of_not_lt hp)]
      rfl
    have hbefore : before = [] := (List.append_eq_nil_iff.mp (hsplit.symm.trans hnone)).1
    simp only [hp, and_false, if_false, hnone, hbefore]

theorem report_cut (s : Store) (p : ProjectId) (cs : List ConfigurationId)
    (resolved : List (ConfigurationId × Resolved)) :
    ((s.cut p cs).project p).report (s.cut p cs) resolved = (s.project p).report s resolved := by
  simp only [Project.report, project_cut]
  rfl

/-- The script of a project with a shorter list is the beginning of its script. -/
theorem emit_cut {resolved : List (ConfigurationId × Resolved)} (hs : s.Coherent)
    (hsplit : (s.project p).configurations = before ++ after)
    (hplain : ∀ identifier t, x.registry.get? identifier = some t → t.IgnoresLists)
    (h : x.Resolves s before resolved) :
    x.emit (s.cut p before) p = ⟨(s.project p).report s resolved, none⟩ := by
  refine emit_of_shorter h (configurations_cut hsplit) (fun c hc r hr => ?_) (report_cut s p before _)
  have hlisted : c ∈ (s.project p).configurations := by
    rw [hsplit]
    exact List.mem_append_left _ hc
  exact resolve_cut hsplit hc (hs.owned p c hlisted) hplain hr

end

/-! ## The first configuration that cannot be rendered -/

namespace Setting

section

variable {x : Setting} {s : Store} {p : ProjectId} (hs : s.Coherent) (hr : x.registry.Built)

include hs hr

theorem emit_whole (h : ∀ c ∈ (s.project p).configurations, x.CanRender (s.configuration c)) :
    (x.emit s p).failure = none := by
  obtain ⟨resolved, hres⟩ :=
    exists_resolves hr (fun c hc => ⟨_, hs.owner?_eq hc⟩) h
  rw [emit_eq_report_iff.mpr ⟨resolved, hres, rfl⟩]

theorem emit_first {before after : List ConfigurationId} {c : ConfigurationId}
    (hsplit : (s.project p).configurations = before ++ c :: after)
    (hbefore : ∀ b ∈ before, x.CanRender (s.configuration b))
    (hc : ¬ x.CanRender (s.configuration c)) :
    ∃ resolved, x.Resolves s before resolved ∧
      x.emit s p = ⟨(s.project p).report s resolved, some (x.refusal s c)⟩ := by
  have howner (b : ConfigurationId) (hb : b ∈ before) : ∃ project, s.owner? b = some project := by
    refine ⟨_, hs.owner?_eq (p := p) ?_⟩
    rw [hsplit]
    exact List.mem_append_left _ hb
  obtain ⟨resolved, hres⟩ := exists_resolves hr howner hbefore
  exact ⟨resolved, hres, emit_of_error hsplit hres (resolve_of_not_canRender hr hc)⟩

/-- A script that does not come to its end was stopped by the first of its configurations that
cannot be rendered. -/
theorem exists_first_of_failure {e : RenderError} (h : (x.emit s p).failure = some e) :
    ∃ before c after, (s.project p).configurations = before ++ c :: after ∧
      (∀ b ∈ before, x.CanRender (s.configuration b)) ∧ ¬ x.CanRender (s.configuration c) ∧
      e = x.refusal s c := by
  have hsome : ¬ ∀ c ∈ (s.project p).configurations, x.CanRender (s.configuration c) := by
    intro hall
    rw [emit_whole hs hr hall] at h
    cases h
  obtain ⟨before, c, after, hsplit, hbefore, hc⟩ := exists_first hsome
  obtain ⟨resolved, -, hemit⟩ := emit_first hs hr hsplit hbefore hc
  rw [hemit] at h
  exact ⟨before, c, after, hsplit, hbefore, hc, (Option.some.inj h).symm⟩

end

/-- How far the script of a project gets. -/
structure StopsAtFirst (x : Setting) (s : Store) (p : ProjectId) : Prop where
  whole : (x.emit s p).failure = none ↔
    ∀ c ∈ (s.project p).configurations, x.CanRender (s.configuration c)
  /-- Nothing else makes it fail. -/
  failed : ∀ e, (x.emit s p).failure = some e →
    ∃ before c after, (s.project p).configurations = before ++ c :: after ∧
      (∀ b ∈ before, x.CanRender (s.configuration b)) ∧ ¬ x.CanRender (s.configuration c) ∧
      e = x.refusal s c
  /-- The first configuration that cannot be rendered ends the script, which says by then what the
  project and the configurations before it ask for. -/
  stopped : ∀ before c after, (s.project p).configurations = before ++ c :: after →
    (∀ b ∈ before, x.CanRender (s.configuration b)) → ¬ x.CanRender (s.configuration c) →
      (x.emit s p).failure = some (x.refusal s c) ∧
      ∃ resolved, x.Resolves s before resolved ∧
        (x.emit s p).statements = (s.project p).report s resolved
  /-- That is the whole script of the project cut down to these configurations, whatever toolsets are
  registered. -/
  cut : ∀ before c after, (s.project p).configurations = before ++ c :: after →
    (∀ b ∈ before, x.CanRender (s.configuration b)) → ¬ x.CanRender (s.configuration c) →
      (x.emit (s.excerpt p before).1 (s.excerpt p before).2).failure = none ∧
      (x.emit s p).text = (x.emit (s.excerpt p before).1 (s.excerpt p before).2).text
  /-- It is its own script as well once it is cut down in its place, if the toolsets do not look at
  the list. -/
  cutInPlace : ∀ before c after, (s.project p).configurations = before ++ c :: after →
    (∀ b ∈ before, x.CanRender (s.configuration b)) → ¬ x.CanRender (s.configuration c) →
    (∀ identifier t, x.registry.get? identifier = some t → t.IgnoresLists) →
      (x.emit (s.cut p before) p).failure = none ∧
      (x.emit s p).text = (x.emit (s.cut p before) p).text

end Setting

/-- A library that links itself. Nobody knows the dialect of its third configuration, nor the toolset
of the fourth one. -/
def Sample.unmapped : Value :=
  .table [("project", .list [
    .table [("name", .string "core"), ("kind", .string "SharedLib"),
      ("dependencies", .list [.string "core"]),
      ("configuration", .list [
        .table [("name", .string "Debug"), ("dialect", .string "gnu++20"),
          ("links", .list [.string "core"])],
        .table [("name", .string "Profile"), ("links", .list [.string "core"])],
        .table [("name", .string "Nightly"), ("dialect", .string "C++23")],
        .table [("name", .string "Release"), ("toolset", .string "nope")]])]])]

def Sample.unmappedRefusal : RenderError :=
  .diagnosed ⟨.unmappedDialect "C++23", some "project 'core', configuration 'Nightly'"⟩

end CMakeGen
