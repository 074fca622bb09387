import Mathlib.Data.List.Forall2

/-!
# Results of steps that may fail

A result that is a success was a success at every step, and a failure is that of the first step that
fails. These lemmas take a result apart into those that it is made of.

Two results are compared by what comes out of them: they fail alike, or succeed with values that are
related (`Alike`). This is kept from step to step, so two readers are compared field by field.

The last lemmas are for results that can be computed, where a property of the value is decided together
with the value.
-/

namespace CMakeGen

theorem mapError_eq_ok_iff {α ε ε' : Type} {f : ε → ε'} {e : Except ε α} {a : α} :
    e.mapError f = .ok a ↔ e = .ok a := by
  cases e with
  | ok b => exact ⟨fun h => congrArg _ (Except.ok.inj h), fun h => congrArg _ (Except.ok.inj h)⟩
  | error b => constructor <;> intro h <;> cases h

theorem bind_eq_ok_iff {α β ε : Type} {e : Except ε α} {f : α → Except ε β} {b : β} :
    (e >>= f) = .ok b ↔ ∃ a, e = .ok a ∧ f a = .ok b := by
  cases e with
  | ok a => exact ⟨fun h => ⟨a, rfl, h⟩, fun ⟨_, ha, h⟩ => by cases ha; exact h⟩
  | error e =>
    constructor
    · intro h
      cases h
    · rintro ⟨a, ha, -⟩
      cases ha

theorem bind_eq_error {α β ε : Type} {e : Except ε α} {f : α → Except ε β} {err : ε}
    (h : (e >>= f) = .error err) : e = .error err ∨ ∃ a, e = .ok a ∧ f a = .error err := by
  cases e with
  | ok a => exact .inr ⟨a, rfl, h⟩
  | error e => exact .inl (congrArg Except.error (Except.error.inj h))

theorem exists_mapError_eq_ok_iff {α ε ε' : Type} {f : ε → ε'} {e : Except ε α} :
    (∃ a, e.mapError f = .ok a) ↔ ∃ a, e = .ok a :=
  exists_congr fun _ => mapError_eq_ok_iff

/-- A step that succeeds can be followed by one that succeeds whatever it is handed. -/
theorem exists_bind_eq_ok {α β ε : Type} {e : Except ε α} {f : α → Except ε β} {P : β → Prop}
    (h : ∃ a, e = .ok a) (hnext : ∀ a, e = .ok a → ∃ b, f a = .ok b ∧ P b) :
    ∃ b, (e >>= f) = .ok b ∧ P b := by
  obtain ⟨a, ha⟩ := h
  obtain ⟨b, hb, hP⟩ := hnext a ha
  exact ⟨b, bind_eq_ok_iff.mpr ⟨a, ha, hb⟩, hP⟩

theorem mapError_eq_error {α ε ε' : Type} {f : ε → ε'} {e : Except ε α} {err : ε'}
    (h : e.mapError f = .error err) : ∃ e', e = .error e' ∧ err = f e' := by
  cases e with
  | ok a => cases h
  | error e' => exact ⟨e', rfl, (Except.error.inj h).symm⟩

theorem map_congr_of_ok {α β ε : Type} {f g : α → β} {e : Except ε α}
    (h : ∀ a, e = .ok a → f a = g a) : e.map f = e.map g := by
  cases e with
  | ok a => exact congrArg Except.ok (h a rfl)
  | error err => rfl

theorem mapM_eq_error {α β ε : Type} {f : α → Except ε β} {items : List α} {err : ε}
    (h : items.mapM f = .error err) : ∃ item ∈ items, f item = .error err := by
  induction items with
  | nil => cases h
  | cons item rest ih =>
    rw [List.mapM_cons] at h
    rcases bind_eq_error h with h | ⟨_, -, h⟩
    · exact ⟨item, List.mem_cons_self, h⟩
    · rcases bind_eq_error h with h | ⟨_, -, h⟩
      · obtain ⟨found, hmem, hfound⟩ := ih h
        exact ⟨found, List.mem_cons_of_mem item hmem, hfound⟩
      · cases h

theorem mapM_eq_ok_iff {α β ε : Type} {f : α → Except ε β} {items : List α} {results : List β} :
    items.mapM f = .ok results ↔
      List.Forall₂ (fun item result => f item = .ok result) items results := by
  induction items generalizing results with
  | nil =>
    rw [List.forall₂_nil_left_iff]
    exact ⟨fun h => (Except.ok.inj h).symm, fun h => congrArg Except.ok h.symm⟩
  | cons item rest ih =>
    rw [List.mapM_cons, List.forall₂_cons_left_iff]
    constructor
    · intro h
      obtain ⟨result, hresult, h⟩ := bind_eq_ok_iff.mp h
      obtain ⟨others, hothers, h⟩ := bind_eq_ok_iff.mp h
      cases h
      exact ⟨result, others, hresult, ih.mp hothers, rfl⟩
    · rintro ⟨result, others, hresult, hothers, rfl⟩
      exact bind_eq_ok_iff.mpr ⟨result, hresult, bind_eq_ok_iff.mpr ⟨others, ih.mpr hothers, rfl⟩⟩

/-- A row of steps succeeds iff each of them does. -/
theorem exists_mapM_eq_ok_iff {α β ε : Type} {f : α → Except ε β} {items : List α} :
    (∃ results, items.mapM f = .ok results) ↔ ∀ item ∈ items, ∃ result, f item = .ok result := by
  simp only [mapM_eq_ok_iff]
  induction items with
  | nil => exact ⟨fun _ _ hmem => absurd hmem List.not_mem_nil, fun _ => ⟨[], .nil⟩⟩
  | cons item rest ih =>
    rw [List.forall_mem_cons, ← ih]
    constructor
    · rintro ⟨_, _ | ⟨hresult, hothers⟩⟩
      exact ⟨⟨_, hresult⟩, _, hothers⟩
    · rintro ⟨⟨_, hresult⟩, _, hothers⟩
      exact ⟨_, .cons hresult hothers⟩

/-! ## Two results -/

/-- The results are the same failure, or successes with related values. -/
inductive Alike {α β ε : Type} (R : α → β → Prop) : Except ε α → Except ε β → Prop where
  | error (err : ε) : Alike R (.error err) (.error err)
  | ok {a : α} {b : β} (h : R a b) : Alike R (.ok a) (.ok b)

namespace Alike

variable {α β α' β' ε ε' : Type} {R : α → β → Prop} {S : α' → β' → Prop} {e : Except ε α}
  {e' : Except ε β}

/-- A result is like itself. -/
theorem refl (e : Except ε α) : Alike (fun a b => b = a) e e := by
  cases e with
  | error err => exact .error err
  | ok a => exact .ok rfl

/-- What can be told of the two results. -/
theorem tell (h : Alike R e e') :
    (∃ err, e = .error err ∧ e' = .error err) ∨ ∃ a b, R a b ∧ e = .ok a ∧ e' = .ok b := by
  cases h with
  | error err => exact .inl ⟨err, rfl, rfl⟩
  | ok h => exact .inr ⟨_, _, h, rfl, rfl⟩

/-- What goes on alike from related values stays alike. -/
theorem bind (h : Alike R e e') {f : α → Except ε α'} {f' : β → Except ε β'}
    (hnext : ∀ a b, R a b → Alike S (f a) (f' b)) : Alike S (e >>= f) (e' >>= f') := by
  cases h with
  | error err => exact .error err
  | ok h => exact hnext _ _ h

/-- A step that the two have in common. -/
theorem bind_same {e' : Except ε α} (h : e' = e) {f : α → Except ε α'} {f' : α → Except ε β'}
    (hnext : ∀ a, e = .ok a → Alike S (f a) (f' a)) : Alike S (e >>= f) (e' >>= f') := by
  subst h
  cases e' with
  | error err => exact .error err
  | ok a => exact hnext a rfl

/-- Two results that are like a third one are like each other. -/
theorem both {e₁ : Except ε α'} {e₂ : Except ε β'} {R₁ : α → α' → Prop} {R₂ : α → β' → Prop}
    (h₁ : Alike R₁ e e₁) (h₂ : Alike R₂ e e₂)
    (hboth : ∀ a b c, e = .ok a → e₁ = .ok b → e₂ = .ok c → R₁ a b → R₂ a c → S b c) :
    Alike S e₁ e₂ := by
  cases h₁ with
  | error err =>
    cases h₂
    exact .error err
  | ok hb =>
    cases h₂ with
    | ok hc => exact .ok (hboth _ _ _ rfl rfl rfl hb hc)

theorem mapError (h : Alike R e e') (f : ε → ε') : Alike R (e.mapError f) (e'.mapError f) := by
  cases h with
  | error err => exact .error (f err)
  | ok h => exact .ok h

end Alike

section

variable {α ε : Type} {e : Except ε α}

theorem exists_ok_of_isOk (h : e.isOk = true) : ∃ a, e = .ok a := by
  cases e with
  | ok a => exact ⟨a, rfl⟩
  | error e => cases h

variable {P : α → Prop} [DecidablePred P]

theorem exists_ok_of_any (h : (e.toOption.any fun a => decide (P a)) = true) :
    ∃ a, e = .ok a ∧ P a := by
  cases e with
  | ok a => exact ⟨a, rfl, of_decide_eq_true h⟩
  | error e => cases h

theorem of_all_of_ok (h : (e.toOption.all fun a => decide (P a)) = true) {a : α}
    (ha : e = .ok a) : P a := by
  subst ha
  exact of_decide_eq_true h

end

end CMakeGen
