import CMakeGen.Proofs.Model.Relocate
import CMakeGen.Proofs.Workspace.Unnoticed

/-!
# A document in another directory

The directories of a document are read in the directory that the document is in. **A document that is
somewhere else describes the same workspace, seen from there, or is refused for the same reason**
(`ofValue_relocated`): the reader joins a directory to every project when it makes it, joining is
associative, and no later step looks at it.
-/

namespace CMakeGen

namespace Workspace

/-- The same workspace with all directories read in `root`. -/
def relocate (w : Workspace) (root : Path) : Workspace :=
  { w with store := w.store.relocate root }

theorem readProject_relocated (root inner : Path) (entry : Value) (s : Store) :
    Alike (fun made made' => made' = (made.1.relocate root, made.2))
      (readProject inner entry s) (readProject (root.join inner) entry (s.relocate root)) := by
  unfold readProject
  refine .bind_same rfl fun named _ => ?_
  cases named with
  | none => exact .error _
  | some named =>
    obtain ⟨table, name⟩ := named
    refine .bind_same rfl fun base _ => ?_
    refine .bind_same rfl fun location _ => ?_
    refine .bind_same rfl fun label _ => ?_
    refine .bind_same rfl fun files _ => ?_
    -- What is made in the longer directory is what is made in the shorter one, seen from `root`.
    have hmade : ({ name, files, kind := .ofLabel (label.getD "")
                    baseDir := (root.join inner).join (.ofString (base.getD ""))
                    location := (location.map fun l => (root.join inner).join (.ofString l)).getD
                      ((root.join inner).join (.ofString (base.getD ""))) } : Project)
        = Project.relocate root
          { name, files, kind := .ofLabel (label.getD "")
            baseDir := inner.join (.ofString (base.getD ""))
            location := (location.map fun l => inner.join (.ofString l)).getD
              (inner.join (.ofString (base.getD ""))) } := by
      cases location <;> simp [Project.relocate, Path.join_assoc]
    dsimp only
    rw [hmade, Store.relocate_addProject]
    refine .bind_same rfl fun entries _ => ?_
    refine ((Store.unnoticed_relocate root).readConfigurations (G := id) (E := Eq)
      (fun s => Store.relocate_newConfiguration s root) ?_ (List.forall₂_refl entries) _ _).bind
      fun made made' hread => ?_
    · intro entry entry' hentry
      subst hentry
      exact .refl _
    · subst hread
      exact .ok rfl

theorem readProjects_relocated (root inner : Path) (entries : List Value) (s : Store)
    (done : List (ProjectId × List String)) :
    Alike (fun made made' => made' = (made.1.relocate root, made.2))
      (readProjects inner entries s done)
      (readProjects (root.join inner) entries (s.relocate root) done) := by
  induction entries generalizing s done with
  | nil => exact .ok rfl
  | cons entry rest ih =>
    refine (readProject_relocated root inner entry s).bind fun made made' hmade => ?_
    subst hmade
    obtain ⟨s₁, p, table, name⟩ := made
    dsimp only
    rw [findProject_congr (Store.name_project_relocate s₁ root)]
    split
    · exact .error _
    · exact .bind_same rfl fun dependencies _ => ih s₁ _

/-- **A document in another directory describes the same workspace, seen from there.** -/
theorem ofValue_relocated (root inner : Path) (defaultName : String) (document : Value) :
    Alike (fun w w' => w' = w.relocate root) (ofValue inner defaultName document)
      (ofValue (root.join inner) defaultName document) := by
  unfold ofValue
  cases document with
  | table table =>
    refine .bind_same rfl fun name _ => ?_
    refine .bind_same rfl fun entries _ => ?_
    refine (readProjects_relocated root inner entries .empty []).bind fun made made' hmade => ?_
    subst hmade
    obtain ⟨s, pending⟩ := made
    refine (((Store.unnoticed_relocate root).addAllDependencies _ pending s).mapError
      ReadError.diagnosed).bind fun made made' hmade => ?_
    subst hmade
    exact .ok rfl
  | _ => exact .error _

end Workspace

end CMakeGen
