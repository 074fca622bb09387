import CMakeGen.Proofs.Except
import CMakeGen.Proofs.Model.Store

/-!
# Changes that are not noticed

Building a model goes by names: configurations are told apart by them, and so are the projects that
others depend on. A change to a whole store that leaves names and lists alone (`Store.Unnoticed`) is
therefore not noticed while the model is built. It can be made before or after anything is attached,
and **what is refused is refused for the same reason** (`Unnoticed.addConfiguration`).
-/

namespace CMakeGen.Store

/-- A change of stores that keeps the names and what is listed, and that can be made before or after
things are attached to each other. -/
structure Unnoticed (F : Store → Store) : Prop where
  configurationName : ∀ s c, ((F s).configuration c).name = (s.configuration c).name
  projectName : ∀ s p, ((F s).project p).name = (s.project p).name
  configurations : ∀ s p, ((F s).project p).configurations = (s.project p).configurations
  attach : ∀ s p c, (F s).attach p c = F (s.attach p c)
  addDependency : ∀ s p on, (F s).addDependency p on = F (s.addDependency p on)

/-- What is done to all items and what is done to one of them can be done in either order. -/
theorem modify_map {α : Type} {f g : α → α} (h : ∀ a, f (g a) = g (f a)) (items : List α) (i : Nat) :
    (items.map g).modify i f = (items.modify i f).map g := by
  refine List.ext_getElem? fun j => ?_
  simp only [List.getElem?_modify, List.getElem?_map]
  cases items[j]? with
  | none => rfl
  | some a => by_cases hj : i = j <;> simp [hj, h]

variable {F : Store → Store} (h : Unnoticed F)

include h

theorem Unnoticed.findConfiguration (s : Store) (p : ProjectId) (name : String) :
    (F s).findConfiguration ((F s).project p) name = s.findConfiguration (s.project p) name := by
  unfold Store.findConfiguration
  simp only [h.configurationName, h.configurations]

/-- A configuration is attached in the changed store iff it is in the other, and refused alike. -/
theorem Unnoticed.addConfiguration (s : Store) (p : ProjectId) (c : ConfigurationId) :
    (F s).addConfiguration p c = (F (s.addConfiguration p c).1, (s.addConfiguration p c).2) := by
  rw [addConfiguration_eq, addConfiguration_eq, h.configurationName, h.projectName,
    h.findConfiguration, h.attach]
  split
  · rfl
  · split <;> rfl

end CMakeGen.Store
