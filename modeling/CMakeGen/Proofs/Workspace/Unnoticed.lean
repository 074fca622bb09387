import CMakeGen.Proofs.Model.Unnoticed
import CMakeGen.Proofs.Workspace.WellFormed

/-!
# Reading into a store that was changed

A document is read into a store step by step. **A change that is not noticed can be made before or after
a step**: when configurations are read (`Unnoticed.readConfigurations`), also from entries that say the
same but for the change, and when dependencies are added (`Unnoticed.addAllDependencies`).
-/

namespace CMakeGen.Store

open Workspace

theorem accepted_alike (F : Store → Store) (made : Store × Option Diagnosis) :
    Alike (fun s s' => s' = F s) (accepted made) (accepted (F made.1, made.2)) := by
  obtain ⟨s, _ | d⟩ := made
  · exact .ok rfl
  · exact .error _

variable {F : Store → Store} (h : Unnoticed F)

include h

/-- Settings that differ as the change of the store says are read into the one store as into the
other. -/
theorem Unnoticed.readConfigurations {G : Configuration → Configuration} {E : Value → Value → Prop}
    (hnew : ∀ s settings, (F s).newConfiguration (G settings)
      = (F (s.newConfiguration settings).1, (s.newConfiguration settings).2))
    {project : String}
    (hread : ∀ entry entry', E entry entry' →
      Alike (fun settings settings' => settings' = G settings) (readConfiguration project entry)
        (readConfiguration project entry'))
    {entries entries' : List Value} (hentries : List.Forall₂ E entries entries') (p : ProjectId)
    (s : Store) :
    Alike (fun made made' => made' = F made) (Workspace.readConfigurations p project entries s)
      (Workspace.readConfigurations p project entries' (F s)) := by
  induction hentries generalizing s with
  | nil => exact .ok rfl
  | cons hentry _ ih =>
    refine (hread _ _ hentry).bind fun settings settings' hsettings => ?_
    subst hsettings
    rw [hnew]
    dsimp only
    rw [h.addConfiguration]
    refine (accepted_alike F _).bind fun made made' hmade => ?_
    subst hmade
    exact ih made

theorem Unnoticed.addDependencies (projects : List ProjectId) (p : ProjectId) (names : List String)
    (s : Store) :
    Alike (fun made made' => made' = F made) (Workspace.addDependencies projects p names s)
      (Workspace.addDependencies projects p names (F s)) := by
  induction names generalizing s with
  | nil => exact .ok rfl
  | cons name rest ih =>
    rw [Workspace.addDependencies, Workspace.addDependencies,
      findProject_congr (h.projectName s) projects name]
    cases findProject s projects name with
    | none =>
      dsimp only
      rw [h.projectName]
      exact .error _
    | some dependency =>
      dsimp only
      rw [h.addDependency]
      exact ih _

theorem Unnoticed.addAllDependencies (projects : List ProjectId)
    (pending : List (ProjectId × List String)) (s : Store) :
    Alike (fun made made' => made' = F made) (Workspace.addAllDependencies projects pending s)
      (Workspace.addAllDependencies projects pending (F s)) := by
  induction pending generalizing s with
  | nil => exact .ok rfl
  | cons entry rest ih =>
    refine (h.addDependencies projects entry.1 entry.2 s).bind fun made made' hmade => ?_
    subst hmade
    exact ih made

end CMakeGen.Store
