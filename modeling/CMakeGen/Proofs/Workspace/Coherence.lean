import CMakeGen.Proofs.Except
import CMakeGen.Proofs.Model.Store
import CMakeGen.Workspace.Basic

/-!
# Documents make coherent workspaces

**A workspace that a document describes has a store in which projects and configurations know each
other** (`ofValue_coherent`). The reader makes every configuration right before it attaches it, so
none is ever listed twice; each step of the reader keeps `Store.Coherent`, and nothing else about
the reader matters here.
-/

namespace CMakeGen

namespace Workspace

open Store

variable {s s' : Store}

theorem accepted_eq_ok_iff {made : Store × Option Diagnosis} :
    accepted made = .ok s ↔ made = (s, none) := by
  obtain ⟨s', _ | d⟩ := made <;> simp [accepted]

theorem accepted_error {made : Store × Option Diagnosis} {e : ReadError}
    (h : accepted made = .error e) : ∃ d, e = .diagnosed d := by
  obtain ⟨s', _ | d⟩ := made <;> cases h
  exact ⟨d, rfl⟩

/-- An entry adds a configuration of a name that is fit for a guard and new in the project. -/
theorem readConfigurations_cons_eq_ok_iff {p : ProjectId} {project : String} {entry : Value}
    {rest : List Value} (hs : s.Coherent) :
    readConfigurations p project (entry :: rest) s = .ok s' ↔
      ∃ settings, readConfiguration project entry = .ok settings ∧
        isConfigurationName settings.name = true ∧
        s.findConfiguration (s.project p) settings.name = none ∧
        readConfigurations p project rest (s.withConfiguration p settings) = .ok s' := by
  constructor
  · intro h
    obtain ⟨settings, hsettings, h⟩ := bind_eq_ok_iff.mp h
    obtain ⟨s₂, hadd, h⟩ := bind_eq_ok_iff.mp h
    obtain ⟨hname, hnew, rfl⟩ :=
      (addConfiguration_newConfiguration_eq_none_iff hs.wellNamed).mp (accepted_eq_ok_iff.mp hadd)
    exact ⟨settings, hsettings, hname, hnew, h⟩
  · rintro ⟨settings, hsettings, hname, hnew, h⟩
    have hadd := (addConfiguration_newConfiguration_eq_none_iff hs.wellNamed).mpr ⟨hname, hnew, rfl⟩
    exact bind_eq_ok_iff.mpr
      ⟨settings, hsettings, bind_eq_ok_iff.mpr ⟨_, accepted_eq_ok_iff.mpr hadd, h⟩⟩

/-- The store after the configurations that entries describe. -/
theorem readConfigurations_coherent {p : ProjectId} {project : String} {entries : List Value}
    (hs : s.Coherent) (h : readConfigurations p project entries s = .ok s') : s'.Coherent := by
  induction entries generalizing s with
  | nil => exact Except.ok.inj h ▸ hs
  | cons entry rest ih =>
    obtain ⟨settings, -, hname, hnew, h⟩ := (readConfigurations_cons_eq_ok_iff hs).mp h
    exact ih (hs.withConfiguration hname hnew) h

theorem readProject_coherent {root : Path} {entry : Value} {p : ProjectId} {table : Table}
    {name : String} (hs : s.Coherent)
    (h : readProject root entry s = .ok (s', p, table, name)) : s'.Coherent := by
  obtain ⟨named, -, h⟩ := bind_eq_ok_iff.mp h
  cases named with
  | none => cases h
  | some entry =>
    -- Only the configurations touch the store, and the project that is added has none yet.
    obtain ⟨base, -, h⟩ := bind_eq_ok_iff.mp h
    obtain ⟨location, -, h⟩ := bind_eq_ok_iff.mp h
    obtain ⟨label, -, h⟩ := bind_eq_ok_iff.mp h
    obtain ⟨files, -, h⟩ := bind_eq_ok_iff.mp h
    obtain ⟨entries, -, h⟩ := bind_eq_ok_iff.mp h
    obtain ⟨s₂, hread, h⟩ := bind_eq_ok_iff.mp h
    cases h
    exact readConfigurations_coherent (hs.addProject rfl) hread

/-- An entry adds a project of a new name, with the names of its dependencies. -/
theorem readProjects_cons_eq_ok_iff {root : Path} {entry : Value} {rest : List Value}
    {done pending : List (ProjectId × List String)} :
    readProjects root (entry :: rest) s done = .ok (s', pending) ↔
      ∃ s₂ p table name dependencies, readProject root entry s = .ok (s₂, p, table, name) ∧
        findProject s₂ (done.map (·.1)) name = none ∧
        textsField table "dependencies" (projectContext name) = .ok dependencies ∧
        readProjects root rest s₂ (done ++ [(p, dependencies)]) = .ok (s', pending) := by
  constructor
  · intro h
    obtain ⟨⟨s₂, p, table, name⟩, hread, h⟩ := bind_eq_ok_iff.mp h
    dsimp only at h
    split at h
    · cases h
    · next hnew =>
      obtain ⟨dependencies, hdependencies, h⟩ := bind_eq_ok_iff.mp h
      exact ⟨s₂, p, table, name, dependencies, hread, by simpa using hnew, hdependencies, h⟩
  · rintro ⟨s₂, p, table, name, dependencies, hread, hnew, hdependencies, h⟩
    refine bind_eq_ok_iff.mpr ⟨_, hread, ?_⟩
    dsimp only
    rw [if_neg (by simp [hnew])]
    exact bind_eq_ok_iff.mpr ⟨dependencies, hdependencies, h⟩

theorem readProjects_coherent {root : Path} {entries : List Value}
    {done pending : List (ProjectId × List String)} (hs : s.Coherent)
    (h : readProjects root entries s done = .ok (s', pending)) : s'.Coherent := by
  induction entries generalizing s done with
  | nil =>
    cases h
    exact hs
  | cons entry rest ih =>
    obtain ⟨s₂, p, table, name, dependencies, hread, -, -, h⟩ := readProjects_cons_eq_ok_iff.mp h
    exact ih (readProject_coherent hs hread) h

theorem addDependencies_coherent {projects : List ProjectId} {p : ProjectId} {names : List String}
    (hs : s.Coherent) (h : addDependencies projects p names s = .ok s') : s'.Coherent := by
  induction names generalizing s with
  | nil => exact Except.ok.inj h ▸ hs
  | cons name rest ih =>
    rw [addDependencies] at h
    split at h
    · cases h
    · exact ih (hs.addDependency p _) h

theorem addAllDependencies_coherent {projects : List ProjectId}
    {pending : List (ProjectId × List String)} (hs : s.Coherent)
    (h : addAllDependencies projects pending s = .ok s') : s'.Coherent := by
  induction pending generalizing s with
  | nil => exact Except.ok.inj h ▸ hs
  | cons entry rest ih =>
    obtain ⟨s₂, hadd, h⟩ := bind_eq_ok_iff.mp h
    exact ih (addDependencies_coherent hs hadd) h

/-- **The projects and configurations of a workspace know each other.** -/
theorem ofValue_coherent {root : Path} {defaultName : String} {document : Value} {w : Workspace}
    (h : ofValue root defaultName document = .ok w) : w.store.Coherent := by
  cases document with
  | table table =>
    obtain ⟨name, -, h⟩ := bind_eq_ok_iff.mp h
    obtain ⟨entries, -, h⟩ := bind_eq_ok_iff.mp h
    obtain ⟨⟨s, pending⟩, hread, h⟩ := bind_eq_ok_iff.mp h
    obtain ⟨s₂, hadd, h⟩ := bind_eq_ok_iff.mp h
    cases h
    exact addAllDependencies_coherent (readProjects_coherent .empty hread)
      (mapError_eq_ok_iff.mp hadd)
  | _ => cases h

end Workspace

end CMakeGen
