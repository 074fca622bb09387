import CMakeGen.Proofs.Model.Agreement
import CMakeGen.Proofs.Workspace.Coherence
import Mathlib.Data.List.Forall2

/-!
# What a document and its workspace have in common

A workspace is read in two passes. The first one makes the projects, entry by entry; the second one
adds the dependencies, for which all projects have to be there. **In the end every project is what
its entry describes, and every name in a list of dependencies has become the one project of that
name** (`ofValue_wellFormed`).

The first pass is an induction over the entries in which the store keeps growing, so what is known
about a project has to outlast the reading of the next ones: that is `Store.Agree`. The second pass
changes nothing but dependencies, and no name among them (`findProject_congr`), so it does not matter
when a name is looked up.
-/

namespace CMakeGen

namespace Workspace

open Store

/-- A configuration has the name and the settings that an entry of its project says. -/
structure DescribesConfiguration (s : Store) (project : String) (entry : Value)
    (c : ConfigurationId) : Prop where
  name : ∃ table, entry = .table table ∧
    textField table "name" = .ok (some (s.configuration c).name)
  settings : readConfiguration project entry = .ok (s.configuration c)

/-- The entries of the configurations in a table: the list that its field holds. Without the field
there are none, and neither are there in an empty text or an empty table. -/
def ListsConfigurations (table : Table) (entries : List Value) : Prop :=
  (table.lookup "configuration").getD (.list []) = .list entries ∨
    entries = [] ∧ (table.lookup "configuration" = some (.string "") ∨
      table.lookup "configuration" = some (.table []))

/-- A project is what the fields of its entry say, its dependencies apart. -/
structure DescribesProject (s : Store) (root : Path) (table : Table) (p : ProjectId) : Prop where
  name : textField table "name" = .ok (some (s.project p).name)
  kind : ∃ label, textField table "kind" = .ok label ∧
    (s.project p).kind = .ofLabel (label.getD "")
  baseDir : ∃ base, stringField table "base_dir" (projectContext (s.project p).name) = .ok base ∧
    (s.project p).baseDir = root.join (.ofString (base.getD ""))
  location : ∃ location,
    stringField table "location" (projectContext (s.project p).name) = .ok location ∧
    (s.project p).location
      = (location.map fun l => root.join (.ofString l)).getD (s.project p).baseDir
  files : textsField table "files" (projectContext (s.project p).name) = .ok (s.project p).files
  configurations : ∃ entries, ListsConfigurations table entries ∧
    List.Forall₂ (DescribesConfiguration s (s.project p).name) entries
      (s.project p).configurations

variable {s s' : Store} {root : Path}

theorem DescribesConfiguration.congr {project : String} {entry : Value} {c : ConfigurationId}
    (h : DescribesConfiguration s project entry c)
    (hc : s'.configuration c = s.configuration c) :
    DescribesConfiguration s' project entry c := by
  constructor <;> rw [hc]
  · exact h.name
  · exact h.settings

/-- What an entry describes does not depend on dependencies. -/
theorem DescribesProject.congr {table : Table} {p : ProjectId} (h : DescribesProject s root table p)
    {dependencies : List ProjectId}
    (hp : s'.project p = { s.project p with dependencies := dependencies })
    (hc : ∀ c ∈ (s.project p).configurations, s'.configuration c = s.configuration c) :
    DescribesProject s' root table p := by
  obtain ⟨entries, hentries, hconfigurations⟩ := h.configurations
  have hsame : List.Forall₂ (DescribesConfiguration s' (s.project p).name) entries
      (s.project p).configurations := by
    have hboth := (List.forall₂_and_left _ _).mpr ⟨hc, hconfigurations.flip⟩
    exact hboth.flip.imp fun entry c h => h.2.congr h.1
  constructor <;> rw [hp]
  · exact h.name
  · exact h.kind
  · exact h.baseDir
  · exact h.location
  · exact h.files
  · exact ⟨entries, hentries, hsame⟩

/-! ## The first pass -/

theorem named?_eq_ok_iff {entry : Value} {table : Table} {name : String} :
    named? entry = .ok (some (table, name)) ↔
      entry = .table table ∧ textField table "name" = .ok (some name) := by
  constructor
  · intro h
    cases entry with
    | table entries =>
      obtain ⟨found, hfound, h⟩ := bind_eq_ok_iff.mp h
      cases found with
      | none => cases h
      | some found =>
        cases h
        exact ⟨rfl, hfound⟩
    | _ => cases h
  · rintro ⟨rfl, h⟩
    exact bind_eq_ok_iff.mpr ⟨_, h, rfl⟩

theorem readConfiguration_name {project : String} {entry : Value} {settings : Configuration}
    (h : readConfiguration project entry = .ok settings) :
    ∃ table, entry = .table table ∧ textField table "name" = .ok (some settings.name) := by
  obtain ⟨named, hnamed, h⟩ := bind_eq_ok_iff.mp h
  cases named with
  | none => cases h
  | some named =>
    obtain ⟨table, name⟩ := named
    simp only [bind_eq_ok_iff] at h
    obtain ⟨_, -, _, -, _, -, _, -, _, -, _, -, _, -, _, -, _, -, _, -, _, -, _, -, _, -, h⟩ := h
    cases h
    exact ⟨table, named?_eq_ok_iff.mp hnamed⟩

/-- What is iterated over is a list, unless it has nothing that describes a configuration: no character
of a text and no key of a table is a table. -/
theorem listsConfigurations_of_described {table : Table} {project : String} {entries : List Value}
    {cs : List ConfigurationId} (h : configurationEntries table = .ok entries)
    (hdescribed : List.Forall₂ (DescribesConfiguration s project) entries cs) :
    ListsConfigurations table entries := by
  have hstrings {α : Type} {keys : List α} {f : α → String}
      (h : List.Forall₂ (DescribesConfiguration s project) (keys.map fun key => .string (f key)) cs) :
      keys = [] := by
    cases keys with
    | nil => rfl
    | cons key rest =>
      cases h with
      | cons hentry _ =>
        obtain ⟨_, htable, -⟩ := hentry.name
        cases htable
  unfold configurationEntries at h
  unfold ListsConfigurations
  cases hfield : table.lookup "configuration" with
  | none =>
    rw [hfield] at h
    exact .inl (congrArg Value.list (Except.ok.inj h))
  | some value =>
    rw [hfield] at h
    cases value with
    | list items => exact .inl (congrArg Value.list (Except.ok.inj h))
    | string text =>
      obtain rfl := Except.ok.inj h
      have hnone := hstrings hdescribed
      obtain rfl : text = "" := String.toList_eq_nil_iff.mp hnone
      exact .inr ⟨rfl, .inl rfl⟩
    | table fields =>
      obtain rfl := Except.ok.inj h
      obtain rfl := hstrings hdescribed
      exact .inr ⟨rfl, .inr rfl⟩
    | _ => cases h

/-- The configurations of the last project are those that the entries describe. -/
theorem readConfigurations_describes {p : ProjectId} {project : String} {entries : List Value}
    (hp : p.index < s.projects.length) (h : readConfigurations p project entries s = .ok s') :
    ∃ new, s'.project p
        = { s.project p with configurations := (s.project p).configurations ++ new } ∧
      List.Forall₂ (DescribesConfiguration s' project) entries new ∧
      s'.projects.length = s.projects.length ∧
      s.configurations.length ≤ s'.configurations.length ∧
      Agree p.index s.configurations.length s s' := by
  induction entries generalizing s with
  | nil =>
    cases h
    exact ⟨[], by simp, .nil, rfl, Nat.le_refl _, .refl _ _ _⟩
  | cons entry rest ih =>
    obtain ⟨settings, hsettings, h⟩ := bind_eq_ok_iff.mp h
    obtain ⟨s₂, hadd, h⟩ := bind_eq_ok_iff.mp h
    obtain ⟨-, -, rfl⟩ := addConfiguration_eq_none_iff.mp (accepted_eq_ok_iff.mp hadd)
    -- The entry makes the first configuration that was not handed out yet.
    let c : ConfigurationId := ⟨s.configurations.length⟩
    let s₁ : Store := ((s.newConfiguration settings).1.attach p c)
    change readConfigurations p project rest s₁ = .ok s' at h
    have hp₁ : p.index < s₁.projects.length := by simpa [s₁, Store.newConfiguration] using hp
    have hlength : s₁.configurations.length = s.configurations.length + 1 := by simp [s₁]
    have hself : s₁.project p
        = { s.project p with configurations := (s.project p).configurations ++ [c] } :=
      project_attach_self _ hp c
    have hsettings₁ : s₁.configuration c = settings := by
      rw [configuration_attach, Store.configuration, attachment_newConfiguration, if_pos rfl]
    have hold : Agree p.index s.configurations.length s s₁ :=
      ((Agree.refl _ _ s).newConfiguration (Nat.le_refl _) settings).attach (Nat.le_refl _)
        (Nat.le_refl _)
    obtain ⟨new, hproject, hrest, hprojects, hconfigurations, hagree⟩ := ih hp₁ h
    have hc : s'.configuration c = settings := by
      rw [hagree.configuration (show c.index < _ by rw [hlength]; exact Nat.lt_succ_self _),
        hsettings₁]
    refine ⟨c :: new, ?_, .cons ⟨?_, ?_⟩ hrest, ?_, ?_, ?_⟩
    · rw [hproject, hself, List.append_assoc]
      rfl
    · rw [hc]
      exact readConfiguration_name hsettings
    · rw [hc]
      exact hsettings
    · rw [hprojects]
      simp [s₁, Store.newConfiguration]
    · omega
    · exact hold.trans (hagree.mono (Nat.le_refl _) (by omega))

/-- A project is made behind all others, and has no dependencies yet. -/
theorem readProject_describes {entry : Value} {p : ProjectId} {table : Table} {name : String}
    (h : readProject root entry s = .ok (s', p, table, name)) :
    (entry = .table table ∧ DescribesProject s' root table p ∧
      (s'.project p).name = name ∧ (s'.project p).dependencies = []) ∧
    p.index = s.projects.length ∧ s'.projects.length = s.projects.length + 1 ∧
    s.configurations.length ≤ s'.configurations.length ∧
    Agree s.projects.length s.configurations.length s s' := by
  obtain ⟨named, hnamed, h⟩ := bind_eq_ok_iff.mp h
  cases named with
  | none => cases h
  | some named =>
    obtain ⟨table, name⟩ := named
    obtain ⟨base, hbase, h⟩ := bind_eq_ok_iff.mp h
    obtain ⟨location, hlocation, h⟩ := bind_eq_ok_iff.mp h
    obtain ⟨label, hlabel, h⟩ := bind_eq_ok_iff.mp h
    obtain ⟨files, hfiles, h⟩ := bind_eq_ok_iff.mp h
    obtain ⟨entries, hentries, h⟩ := bind_eq_ok_iff.mp h
    obtain ⟨s₂, hread, h⟩ := bind_eq_ok_iff.mp h
    cases h
    obtain ⟨rfl, hname⟩ := named?_eq_ok_iff.mp hnamed
    have hlt (project : Project) :
        s.projects.length < (s.addProject project).1.projects.length := by
      simp
    obtain ⟨new, hproject, hnew, hprojects, hconfigurations, hagree⟩ :=
      readConfigurations_describes (hlt _) hread
    rw [project_addProject, if_pos rfl] at hproject
    refine ⟨⟨rfl, ?_, ?_, ?_⟩, rfl, ?_, hconfigurations, ?_⟩
    · constructor <;> rw [hproject]
      · exact hname
      · exact ⟨label, hlabel, rfl⟩
      · exact ⟨base, hbase, rfl⟩
      · exact ⟨location, hlocation, rfl⟩
      · exact hfiles
      · exact ⟨entries, listsConfigurations_of_described hentries hnew, hnew⟩
    · rw [hproject]
    · rw [hproject]
    · rw [hprojects, length_projects_addProject]
    · exact ((Agree.refl _ _ s).addProject (Nat.le_refl _) _).trans hagree

/-- What the first pass knows of an entry: its project, and the names of the dependencies that the
project is still without. -/
structure Pending (s : Store) (root : Path) (entry : Value) (found : ProjectId × List String) :
    Prop where
  described : ∃ table, entry = .table table ∧ DescribesProject s root table found.1 ∧
    textsField table "dependencies" (projectContext (s.project found.1).name) = .ok found.2
  without : (s.project found.1).dependencies = []
  lt_length : found.1.index < s.projects.length

/-- What is read later changes nothing about it. -/
theorem Pending.congr {entry : Value} {found : ProjectId × List String}
    (h : Pending s root entry found) (hs : s.Coherent)
    (hlength : s.projects.length ≤ s'.projects.length)
    (hagree : Agree s.projects.length s.configurations.length s s') :
    Pending s' root entry found := by
  obtain ⟨table, rfl, hproject, hnames⟩ := h.described
  have hsame := hagree.project found.1 h.lt_length
  refine ⟨⟨table, rfl, hproject.congr hsame fun c hc => ?_, ?_⟩, ?_, ?_⟩
  · exact hagree.configuration (hs.lt_length hc)
  · rw [hsame]
    exact hnames
  · rw [hsame]
    exact h.without
  · exact Nat.lt_of_lt_of_le h.lt_length hlength

/-- A name that leads to no project is none of theirs. -/
theorem findProject_eq_none_iff {projects : List ProjectId} {name : String} :
    findProject s projects name = none ↔ ∀ p ∈ projects, (s.project p).name ≠ name := by
  simp [findProject]

theorem readProjects_pending {entries : List Value} {done pending : List (ProjectId × List String)}
    (hs : s.Coherent) (hdone : ∀ found ∈ done, found.1.index < s.projects.length)
    (hnodup : (done.map fun found => (s.project found.1).name).Nodup)
    (h : readProjects root entries s done = .ok (s', pending)) :
    (∃ new, pending = done ++ new ∧ List.Forall₂ (Pending s' root) entries new) ∧
    (pending.map fun found => (s'.project found.1).name).Nodup ∧
    s.projects.length ≤ s'.projects.length ∧
    Agree s.projects.length s.configurations.length s s' := by
  induction entries generalizing s done with
  | nil =>
    cases h
    exact ⟨⟨[], by simp, .nil⟩, hnodup, Nat.le_refl _, .refl _ _ _⟩
  | cons entry rest ih =>
    obtain ⟨s₂, p, table, name, dependencies, hread, hnew, hdependencies, h⟩ :=
      readProjects_cons_eq_ok_iff.mp h
    obtain ⟨⟨hentry, hproject, hname, hwithout⟩, hindex, hlength, hconfigurations, hagree⟩ :=
      readProject_describes hread
    have hs₂ := readProject_coherent hs hread
    have hdone₂ : ∀ found ∈ done ++ [(p, dependencies)],
        found.1.index < s₂.projects.length := by
      intro found hfound
      rcases List.mem_append.mp hfound with hold | hlast
      · have := hdone found hold
        omega
      · rw [List.mem_singleton.mp hlast]
        show p.index < _
        omega
    -- The names of the projects before are what they were, and the new one is not among them.
    have hnames : (done.map fun found => (s₂.project found.1).name)
        = done.map fun found => (s.project found.1).name :=
      List.map_congr_left fun found hfound => by rw [hagree.project _ (hdone found hfound)]
    have hother : name ∉ done.map fun found => (s₂.project found.1).name := by
      intro hmem
      obtain ⟨found, hfound, hsame⟩ := List.mem_map.mp hmem
      exact findProject_eq_none_iff.mp hnew found.1 (List.mem_map_of_mem hfound) hsame
    have hnodup₂ : ((done ++ [(p, dependencies)]).map fun found =>
        (s₂.project found.1).name).Nodup := by
      rw [List.map_append, List.map_singleton, ← List.concat_eq_append, hname]
      exact (List.nodup_concat _ _).mpr ⟨hother, hnames ▸ hnodup⟩
    obtain ⟨⟨new, rfl, hrest⟩, hdistinct, hlength', hagree'⟩ := ih hs₂ hdone₂ hnodup₂ h
    have hpending : Pending s₂ root entry (p, dependencies) := by
      refine ⟨⟨table, hentry, hproject, ?_⟩, hwithout, hdone₂ _ (by simp)⟩
      rw [hname]
      exact hdependencies
    refine ⟨⟨(p, dependencies) :: new, by simp, .cons ?_ hrest⟩, hdistinct, by omega, ?_⟩
    · exact hpending.congr hs₂ hlength' hagree'
    · exact hagree.trans (hagree'.mono (by omega) hconfigurations)

/-! ## The second pass -/

/-- A look-up depends on names alone. -/
theorem findProject_congr (h : ∀ p, (s'.project p).name = (s.project p).name)
    (projects : List ProjectId) (name : String) :
    findProject s' projects name = findProject s projects name := by
  simp only [findProject, h]

theorem addDependencies_describes {projects : List ProjectId} {p : ProjectId} {names : List String}
    (hp : p.index < s.projects.length) (h : addDependencies projects p names s = .ok s') :
    (∃ new, s'.project p
        = { s.project p with dependencies := (s.project p).dependencies ++ new } ∧
      List.Forall₂ (fun name d => findProject s projects name = some d) names new) ∧
    (∀ q, q ≠ p → s'.project q = s.project q) ∧ s'.configurations = s.configurations ∧
    s'.projects.length = s.projects.length := by
  induction names generalizing s with
  | nil =>
    cases h
    exact ⟨⟨[], by simp, .nil⟩, fun _ _ => rfl, rfl, rfl⟩
  | cons name rest ih =>
    rw [addDependencies] at h
    split at h
    · cases h
    · next d hfind =>
      have hp₂ : p.index < (s.addDependency p d).projects.length := by simpa using hp
      have hself := (project_addDependency s p d p).trans (if_pos ⟨rfl, hp⟩)
      have hother (q : ProjectId) (hq : q ≠ p) : (s.addDependency p d).project q = s.project q :=
        (project_addDependency s p d q).trans (if_neg fun hboth => hq hboth.1)
      have hnames (q : ProjectId) : ((s.addDependency p d).project q).name = (s.project q).name := by
        rw [project_addDependency]
        split <;> rfl
      obtain ⟨⟨new, hproject, hnew⟩, hothers, hconfigurations, hlength⟩ := ih hp₂ h
      refine ⟨⟨d :: new, ?_, .cons hfind ?_⟩, fun q hq => ?_, hconfigurations, ?_⟩
      · rw [hproject, hself, List.append_assoc]
        rfl
      · exact hnew.imp fun name e he => findProject_congr hnames projects name ▸ he
      · rw [hothers q hq, hother q hq]
      · rw [hlength, length_projects_addDependency]

theorem addAllDependencies_describes {projects : List ProjectId}
    {pending : List (ProjectId × List String)} (hnodup : (pending.map (·.1)).Nodup)
    (hlt : ∀ found ∈ pending, found.1.index < s.projects.length)
    (h : addAllDependencies projects pending s = .ok s') :
    (∀ found ∈ pending, ∃ new, s'.project found.1
        = { s.project found.1 with
            dependencies := (s.project found.1).dependencies ++ new } ∧
      List.Forall₂ (fun name d => findProject s projects name = some d) found.2 new) ∧
    (∀ q, q ∉ pending.map (·.1) → s'.project q = s.project q) ∧
    s'.configurations = s.configurations ∧ s'.projects.length = s.projects.length := by
  induction pending generalizing s with
  | nil =>
    cases h
    exact ⟨fun _ hfound => absurd hfound List.not_mem_nil, fun _ _ => rfl, rfl, rfl⟩
  | cons found rest ih =>
    obtain ⟨p, names⟩ := found
    obtain ⟨s₂, hadd, h⟩ := bind_eq_ok_iff.mp h
    rw [List.map_cons, List.nodup_cons] at hnodup
    obtain ⟨hfirst, hnodup⟩ := hnodup
    obtain ⟨⟨new, hproject, hnew⟩, hothers, hconfigurations, hlength⟩ :=
      addDependencies_describes (hlt _ List.mem_cons_self) hadd
    have hnames (q : ProjectId) : (s₂.project q).name = (s.project q).name := by
      by_cases hq : q = p
      · rw [hq, hproject]
      · rw [hothers q hq]
    have hlt₂ : ∀ found ∈ rest, found.1.index < s₂.projects.length := by
      intro found hfound
      rw [hlength]
      exact hlt found (List.mem_cons_of_mem _ hfound)
    obtain ⟨hrest, hunlisted, hconfigurations', hlength'⟩ := ih hnodup hlt₂ h
    refine ⟨fun found hfound => ?_, fun q hq => ?_, hconfigurations'.trans hconfigurations,
      hlength'.trans hlength⟩
    · rcases List.mem_cons.mp hfound with rfl | hmem
      · exact ⟨new, (hunlisted p hfirst).trans hproject, hnew⟩
      · -- Nobody else is touched before its turn comes.
        have hne : found.1 ≠ p := fun heq => hfirst (List.mem_map.mpr ⟨found, hmem, heq⟩)
        obtain ⟨more, hmore, hfind⟩ := hrest found hmem
        rw [hothers _ hne] at hmore
        exact ⟨more, hmore, hfind.imp fun name d hd => findProject_congr hnames projects name ▸ hd⟩
    · rw [List.map_cons, List.mem_cons, not_or] at hq
      rw [hunlisted q hq.2, hothers q hq.1]

/-! ## Both passes -/

section

variable {defaultName : String} {document : Value} {w : Workspace}

theorem projectEntries_eq_ok_iff {table : Table} {entries : List Value} :
    projectEntries table = .ok entries ↔
      (table.lookup "project").getD (.list []) = .list entries := by
  unfold projectEntries
  cases table.lookup "project" with
  | none => simp
  | some value => cases value <;> simp

/-- What the two passes leave behind: `s` is the store between them, and the second one has given
each project the dependencies that the first one had the names of. -/
theorem passes_of_ofValue (h : ofValue root defaultName document = .ok w) :
    ∃ table entries s pending, document = .table table ∧
      (table.lookup "project").getD (.list []) = .list entries ∧
      List.Forall₂ (Pending s root) entries pending ∧ s.Coherent ∧
      w.projects = pending.map (·.1) ∧
      (∀ p ∈ w.projects, p.index < w.store.projects.length) ∧
      (w.projects.map fun p => (w.store.project p).name).Nodup ∧
      w.store.configurations = s.configurations ∧
      ∀ found ∈ pending, ∃ dependencies,
        w.store.project found.1 = { s.project found.1 with dependencies := dependencies } ∧
        List.Forall₂ (fun name d => findProject w.store w.projects name = some d) found.2
          dependencies := by
  cases document with
  | table table =>
    obtain ⟨name, -, h⟩ := bind_eq_ok_iff.mp h
    obtain ⟨entries, hentries, h⟩ := bind_eq_ok_iff.mp h
    obtain ⟨⟨s, pending⟩, hread, h⟩ := bind_eq_ok_iff.mp h
    obtain ⟨s', hadd, h⟩ := bind_eq_ok_iff.mp h
    cases h
    have hnone : ∀ found ∈ ([] : List (ProjectId × List String)),
        found.1.index < Store.empty.projects.length :=
      fun _ hfound => absurd hfound List.not_mem_nil
    obtain ⟨⟨new, hnew, hpending⟩, hnodup, -, -⟩ :=
      readProjects_pending .empty hnone (by simp) hread
    rw [List.nil_append] at hnew
    subst hnew
    have hfound : ∀ found ∈ pending, (s.project found.1).dependencies = [] ∧
        found.1.index < s.projects.length :=
      ((List.forall₂_and_left _ _).mp (hpending.flip.imp fun found entry hentry =>
        ⟨⟨hentry.without, hentry.lt_length⟩, hentry⟩)).1
    have hids : (pending.map (·.1)).Nodup := by
      refine List.Nodup.of_map (fun p => (s.project p).name) ?_
      rw [List.map_map]
      exact hnodup
    obtain ⟨hlisted, hunlisted, hconfigurations, hlength⟩ :=
      addAllDependencies_describes hids (fun found hmem => (hfound found hmem).2)
        (mapError_eq_ok_iff.mp hadd)
    have hnames (q : ProjectId) : (s'.project q).name = (s.project q).name := by
      by_cases hq : q ∈ pending.map (·.1)
      · obtain ⟨found, hmem, rfl⟩ := List.mem_map.mp hq
        obtain ⟨new, hproject, -⟩ := hlisted found hmem
        rw [hproject]
      · rw [hunlisted q hq]
    refine ⟨table, entries, s, pending, rfl,
      projectEntries_eq_ok_iff.mp (mapError_eq_ok_iff.mp hentries), hpending,
      readProjects_coherent .empty hread, rfl, fun p hp => ?_, ?_, hconfigurations,
      fun found hmem => ?_⟩
    · obtain ⟨found, hmem, rfl⟩ := List.mem_map.mp hp
      rw [hlength]
      exact (hfound found hmem).2
    · simp only [hnames, List.map_map]
      exact hnodup
    · obtain ⟨new, hproject, hnew⟩ := hlisted found hmem
      rw [(hfound found hmem).1, List.nil_append] at hproject
      exact ⟨new, hproject, hnew.imp fun name d hd =>
        (findProject_congr hnames _ name).trans hd⟩
  | _ => cases h

/-- The projects of a workspace have names of their own. -/
theorem nodup_names_of_ofValue (h : ofValue root defaultName document = .ok w) :
    (w.projects.map fun p => (w.store.project p).name).Nodup := by
  obtain ⟨-, -, -, -, -, -, -, -, -, -, hnodup, -⟩ := passes_of_ofValue h
  exact hnodup

theorem lt_length_of_mem_projects (h : ofValue root defaultName document = .ok w) {p : ProjectId}
    (hp : p ∈ w.projects) : p.index < w.store.projects.length := by
  obtain ⟨-, -, -, -, -, -, -, -, -, hlt, -⟩ := passes_of_ofValue h
  exact hlt p hp

end

/-- The one project of that name. -/
structure IsNamed (w : Workspace) (name : String) (p : ProjectId) : Prop where
  mem : p ∈ w.projects
  called : (w.store.project p).name = name
  unique : ∀ q ∈ w.projects, (w.store.project q).name = name → q = p

/-- A project is what its entry says, and its dependencies are those that the entry names. -/
structure Describes (w : Workspace) (root : Path) (entry : Value) (p : ProjectId) : Prop where
  fields : ∃ table, entry = .table table ∧ DescribesProject w.store root table p ∧
    ∃ names, textsField table "dependencies" (projectContext (w.store.project p).name)
        = .ok names ∧
      List.Forall₂ w.IsNamed names (w.store.project p).dependencies

/-- What holds of every workspace whose projects are read from these entries. -/
structure WellFormed (w : Workspace) (root : Path) (entries : List Value) : Prop where
  described : List.Forall₂ (w.Describes root) entries w.projects
  distinct : (w.projects.map fun p => (w.store.project p).name).Nodup
  configurationNames : ∀ p ∈ w.projects,
    ((w.store.project p).configurations.map fun c => (w.store.configuration c).name).Nodup ∧
    ∀ c ∈ (w.store.project p).configurations, (w.store.configuration c).name ≠ "" ∧
      ∀ x ∈ (w.store.configuration c).name.toList, x.isAlphanum = true ∨ x = '_'
  owned : ∀ p ∈ w.projects, ∀ c ∈ (w.store.project p).configurations,
    (w.store.attachment c).owner = some p
  apart : ∀ p ∈ w.projects, ∀ q ∈ w.projects, p ≠ q →
    ∀ c ∈ (w.store.project p).configurations, c ∉ (w.store.project q).configurations

section

variable {defaultName : String} {document : Value} {w : Workspace}

theorem isNamed_of_findProject
    (hnodup : (w.projects.map fun p => (w.store.project p).name).Nodup) {name : String}
    {p : ProjectId} (h : findProject w.store w.projects name = some p) : w.IsNamed name p := by
  have hname : (w.store.project p).name = name := by simpa using List.find?_some h
  have hmem := List.mem_of_find?_eq_some h
  exact ⟨hmem, hname, fun q hq hqname =>
    List.inj_on_of_nodup_map hnodup hq hmem (hqname.trans hname.symm)⟩

/-- What a project depends on is a project of the workspace. -/
theorem mem_projects_of_mem_dependencies (h : ofValue root defaultName document = .ok w)
    {p d : ProjectId} (hp : p ∈ w.projects) (hd : d ∈ (w.store.project p).dependencies) :
    d ∈ w.projects := by
  obtain ⟨-, -, s, pending, -, -, -, -, hprojects, -, -, -, hdependencies⟩ := passes_of_ofValue h
  rw [hprojects, List.mem_map] at hp
  obtain ⟨found, hfound, rfl⟩ := hp
  obtain ⟨dependencies, hproject, hnames⟩ := hdependencies found hfound
  have hmem : ∀ d ∈ dependencies, d ∈ w.projects :=
    ((List.forall₂_and_left _ _).mp (hnames.flip.imp fun d name hfind =>
      ⟨List.mem_of_find?_eq_some hfind, hfind⟩)).1
  rw [hproject] at hd
  exact hmem d hd

/-- A dependency is found by its name. -/
theorem findDependency_of_mem (h : ofValue root defaultName document = .ok w) {p d : ProjectId}
    (hp : p ∈ w.projects) (hd : d ∈ (w.store.project p).dependencies) :
    w.store.findDependency (w.store.project p) (w.store.project d).name = some d := by
  cases hfind : w.store.findDependency (w.store.project p) (w.store.project d).name with
  | none =>
    have hnone := List.find?_eq_none.mp hfind d hd
    exact absurd (decide_eq_true rfl) hnone
  | some other =>
    have hname : (w.store.project other).name = (w.store.project d).name := by
      simpa using List.find?_some hfind
    have hother := mem_projects_of_mem_dependencies h hp (List.mem_of_find?_eq_some hfind)
    rw [List.inj_on_of_nodup_map (nodup_names_of_ofValue h) hother
      (mem_projects_of_mem_dependencies h hp hd) hname]

/-- **Every workspace is what its document describes, and its parts fit together.** -/
theorem ofValue_wellFormed (h : ofValue root defaultName document = .ok w) :
    ∃ table entries, document = .table table ∧
      (table.lookup "project").getD (.list []) = .list entries ∧ w.WellFormed root entries := by
  obtain ⟨table, entries, s, pending, hdocument, hentries, hpending, hs, hprojects, -, hnodup,
    hconfigurations, hdependencies⟩ := passes_of_ofValue h
  have hcoherent := ofValue_coherent h
  refine ⟨table, entries, hdocument, hentries, ?_⟩
  have hattachment (c : ConfigurationId) : w.store.configuration c = s.configuration c := by
    rw [configuration, configuration, attachment, attachment, hconfigurations]
  constructor
  case described =>
    rw [hprojects, List.forall₂_map_right_iff]
    have hboth := (List.forall₂_and_left _ _).mpr ⟨hdependencies, hpending.flip⟩
    refine hboth.flip.imp fun entry found hfound => ?_
    obtain ⟨⟨dependencies, hproject, hfind⟩, hentry⟩ := hfound
    obtain ⟨table, rfl, hdescribed, hnames⟩ := hentry.described
    refine ⟨table, rfl, hdescribed.congr hproject fun c _ => hattachment c, found.2, ?_, ?_⟩
    · rw [hproject]
      exact hnames
    · rw [hproject]
      exact hfind.imp fun name d hd => isNamed_of_findProject hnodup hd
  case distinct => exact hnodup
  case configurationNames =>
    intro p _
    refine ⟨hcoherent.distinct p, fun c hc => ?_⟩
    exact isConfigurationName_iff.mp (hcoherent.named p c hc)
  case owned =>
    intro p _ c hc
    exact hcoherent.owned p c hc
  case apart =>
    intro p _ q _ hne c hp hq
    have howner := (hcoherent.owned p c hp).symm.trans (hcoherent.owned q c hq)
    exact hne (Option.some.inj howner)

end

end Workspace

/-- Two projects that depend on each other, one of them on itself as well. The name of the second
one is no string in the document. -/
def Sample.circle : Value :=
  .table [("project", .list [
    .table [("name", .string "app"),
      ("dependencies", .list [.bool true, .string "app", .string "True"]),
      ("configuration", .list [
        .table [("name", .string "Debug"), ("defines", .list [.string "A", .bool true])],
        .table [("name", .string "Release_2")]])],
    .table [("name", .bool true), ("dependencies", .list [.string "app"]),
      ("configuration", .list [.table [("name", .string "Debug")]])]])]

theorem Workspace.ofValue_wellFormed_sample :
    ∃ w, Workspace.ofValue (.ofString "m") "workspace" Sample.circle = .ok w ∧
      w.projects = [⟨0⟩, ⟨1⟩] ∧ (w.store.project ⟨0⟩).dependencies = [⟨1⟩, ⟨0⟩, ⟨1⟩] ∧
      (w.store.project ⟨0⟩).configurations.map w.store.configuration
        = [{ name := "Debug", defines := ["A", "True"] }, { name := "Release_2" }] ∧
      ∃ entries, w.WellFormed (.ofString "m") entries := by
  have hany : ((Workspace.ofValue (.ofString "m") "workspace" Sample.circle).toOption.any
      fun w => decide (w.projects = [⟨0⟩, ⟨1⟩] ∧
        (w.store.project ⟨0⟩).dependencies = [⟨1⟩, ⟨0⟩, ⟨1⟩] ∧
        (w.store.project ⟨0⟩).configurations.map w.store.configuration
          = [{ name := "Debug", defines := ["A", "True"] }, { name := "Release_2" }])) = true := by
    decide
  obtain ⟨w, h, hprojects, hdependencies, hconfigurations⟩ := exists_ok_of_any hany
  obtain ⟨-, entries, -, -, hw⟩ := Workspace.ofValue_wellFormed h
  exact ⟨w, h, hprojects, hdependencies, hconfigurations, entries, hw⟩

end CMakeGen
