/-!
# Associations

A list of keys and values that answers with the first entry of a key. `assign` changes that
entry where it stands, or adds one at the end, so the keys stay in the order in which they
first came and a list without a repeated key stays one. `lookup_assign` is all that the tables
built on it (files of a disk, toolsets of a registry, keys of a document) need to know.
-/

namespace CMakeGen.Association

variable {α β : Type} [DecidableEq α]

/-- The association with `key` meaning `value`. -/
def assign (key : α) (value : β) : List (α × β) → List (α × β)
  | [] => [(key, value)]
  | (k, v) :: rest => if k = key then (key, value) :: rest else (k, v) :: assign key value rest

section

-- A list of names comes with a `BEq` of its own, which is not the one made of `DecidableEq`.
variable [BEq α] [LawfulBEq α]

theorem lookup_cons_eq_ite (k k' : α) (value : β) (rest : List (α × β)) :
    ((k', value) :: rest).lookup k = if k = k' then some value else rest.lookup k := by
  rw [List.lookup_cons]
  by_cases h : k = k'
  · rw [if_pos h, beq_iff_eq.mpr h]
  · rw [if_neg h, beq_eq_false_iff_ne.mpr h]

theorem lookup_assign (key k : α) (value : β) (entries : List (α × β)) :
    (assign key value entries).lookup k = if k = key then some value else entries.lookup k := by
  induction entries with
  | nil => rw [assign, lookup_cons_eq_ite]
  | cons entry rest ih =>
    obtain ⟨k', v⟩ := entry
    by_cases h' : k' = key
    · subst h'
      simp only [assign, if_true, lookup_cons_eq_ite]
      split <;> rfl
    · simp only [assign, h', if_false, lookup_cons_eq_ite, ih]
      by_cases h : k = key
      · subst h
        simp [Ne.symm h']
      · simp [h]

end

/-- What was assigned before is forgotten. -/
theorem assign_assign (key : α) (value value' : β) (entries : List (α × β)) :
    assign key value (assign key value' entries) = assign key value entries := by
  induction entries with
  | nil => simp only [assign, if_true]
  | cons entry rest ih =>
    obtain ⟨k, v⟩ := entry
    by_cases hk : k = key
    · simp only [assign, hk, if_true]
    · simp only [assign, hk, if_false, ih]

theorem mem_keys_assign (key k : α) (value : β) (entries : List (α × β)) :
    k ∈ (assign key value entries).map (·.1) ↔ k = key ∨ k ∈ entries.map (·.1) := by
  induction entries with
  | nil => simp [assign]
  | cons entry rest ih =>
    obtain ⟨k', v⟩ := entry
    by_cases h : k' = key
    · simp [assign, h]
    · simp only [assign, h, if_false, List.map_cons, List.mem_cons, ih]
      constructor <;> rintro (h | h | h) <;> simp [h]

theorem nodup_keys_assign (key : α) (value : β) {entries : List (α × β)}
    (h : (entries.map (·.1)).Nodup) : ((assign key value entries).map (·.1)).Nodup := by
  induction entries with
  | nil => simp [assign]
  | cons entry rest ih =>
    obtain ⟨k', v⟩ := entry
    simp only [List.map_cons, List.nodup_cons] at h
    by_cases hk : k' = key
    · subst hk
      simpa [assign] using h
    · simp only [assign, hk, if_false, List.map_cons, List.nodup_cons]
      refine ⟨?_, ih h.2⟩
      intro hmem
      rcases (mem_keys_assign key k' value rest).mp hmem with heq | hrest
      · exact hk heq
      · exact h.1 hrest

/-- To assign what is there changes nothing. -/
theorem assign_eq_self [BEq α] [LawfulBEq α] {key : α} {value : β} {entries : List (α × β)}
    (h : entries.lookup key = some value) : assign key value entries = entries := by
  induction entries with
  | nil => cases h
  | cons entry rest ih =>
    obtain ⟨k, v⟩ := entry
    rw [lookup_cons_eq_ite] at h
    by_cases hk : k = key
    · subst hk
      rw [if_pos rfl] at h
      rw [assign, if_pos rfl, Option.some.inj h]
    · rw [if_neg (Ne.symm hk)] at h
      rw [assign, if_neg hk, ih h]

theorem mem_assign {key : α} {value : β} {entry : α × β} {entries : List (α × β)}
    (h : entry ∈ assign key value entries) : entry = (key, value) ∨ entry ∈ entries := by
  induction entries with
  | nil => simpa [assign] using h
  | cons first rest ih =>
    rw [assign] at h
    split at h
    · rcases List.mem_cons.mp h with rfl | hrest
      · exact .inl rfl
      · exact .inr (List.mem_cons_of_mem _ hrest)
    · rcases List.mem_cons.mp h with rfl | hrest
      · exact .inr List.mem_cons_self
      · exact (ih hrest).imp_right (List.mem_cons_of_mem _)

end CMakeGen.Association
