import CMakeGen.Proofs.Toolset.Registry
import Mathlib.Data.List.Induction
import Mathlib.Data.List.Nodup

/-!
# What a row of registrations leaves behind

The two tables of a registry have keys of different kinds. Identifiers are in lower case, canonical
names are as they were written, and a later registration may take identifiers away from an earlier one
without touching its name. Still **the identifiers that were ever listed are divided among the names**
(`registerAll_coherent`): every one of them leads to one name, and no name is listed for an identifier
that leads elsewhere.

`Tidy` is what a single registration preserves. Which identifiers there are is then a matter of the
whole row, and a registration without any, which is refused, leaves no trace in it.
-/

namespace CMakeGen

namespace Registry

/-- The registry after a row of registrations, also if some of them were refused. -/
def registerAll (calls : List (Toolset × List String)) : Registry :=
  calls.foldl (fun r call => (r.register call.1 call.2).1) empty

/-- A registration of the row lists the identifier, in some letter case. -/
def Listed (calls : List (Toolset × List String)) (identifier : String) : Prop :=
  ∃ call ∈ calls, ∃ listed ∈ call.2, Text.lowercase listed = Text.lowercase identifier

/-! ## One registration -/

/-- Every table has its keys once, and identifiers lead to names that are there. -/
structure Tidy (r : Registry) : Prop where
  toolsets : (r.toolsets.map (·.1)).Nodup
  aliases : (r.aliases.map (·.1)).Nodup
  leads : ∀ entry ∈ r.aliases, entry.2 ∈ r.toolsets.map (·.1)

theorem Tidy.empty : Registry.empty.Tidy where
  toolsets := List.nodup_nil
  aliases := List.nodup_nil
  leads _ h := absurd h List.not_mem_nil

section

variable (canonical : String) (identifiers : List String) {aliases : List (String × String)}

theorem nodup_keys_foldl_assign (h : (aliases.map (·.1)).Nodup) :
    ((identifiers.foldl (fun aliases identifier =>
        Association.assign (Text.lowercase identifier) canonical aliases) aliases).map (·.1)).Nodup := by
  induction identifiers generalizing aliases with
  | nil => exact h
  | cons identifier rest ih => exact ih (Association.nodup_keys_assign _ _ h)

theorem mem_keys_foldl_assign (key : String) :
    key ∈ (identifiers.foldl (fun aliases identifier =>
        Association.assign (Text.lowercase identifier) canonical aliases) aliases).map (·.1) ↔
      key ∈ identifiers.map Text.lowercase ∨ key ∈ aliases.map (·.1) := by
  induction identifiers generalizing aliases with
  | nil => simp
  | cons identifier rest ih =>
    rw [List.foldl_cons, ih, Association.mem_keys_assign, List.map_cons, List.mem_cons]
    exact or_left_comm.trans or_assoc.symm

theorem mem_foldl_assign {entry : String × String}
    (h : entry ∈ identifiers.foldl (fun aliases identifier =>
        Association.assign (Text.lowercase identifier) canonical aliases) aliases) :
    entry.2 = canonical ∨ entry ∈ aliases := by
  induction identifiers generalizing aliases with
  | nil => exact .inr h
  | cons identifier rest ih =>
    rcases ih h with hname | hmem
    · exact .inl hname
    · rcases Association.mem_assign hmem with rfl | hold
      · exact .inl rfl
      · exact .inr hold

end

variable {r r' : Registry} {toolset : Toolset} {identifiers : List String}

/-- A registration is refused iff it has no identifiers, and then it leaves the registry as it is. -/
theorem register_eq_some_iff {e : RegisterError} :
    r.register toolset identifiers = (r', some e) ↔
      identifiers = [] ∧ r' = r ∧ e = .noIdentifier := by
  cases identifiers with
  | nil => simp [register, eq_comm]
  | cons canonical rest => simp [register]

theorem Tidy.register (h : r.Tidy) (toolset : Toolset) (identifiers : List String) :
    (r.register toolset identifiers).1.Tidy := by
  cases identifiers with
  | nil => exact h
  | cons canonical rest =>
    refine ⟨Association.nodup_keys_assign _ _ h.toolsets,
      nodup_keys_foldl_assign canonical (canonical :: rest) h.aliases, ?_⟩
    intro entry hentry
    -- A name that identifiers lead to is the new one or was there before.
    refine (Association.mem_keys_assign _ _ _ _).mpr ?_
    rcases mem_foldl_assign canonical (canonical :: rest) hentry with hname | hold
    · exact .inl hname
    · exact .inr (h.leads entry hold)

theorem mem_aliases_register (r : Registry) (toolset : Toolset) (identifiers : List String)
    (key : String) : key ∈ (r.register toolset identifiers).1.aliases.map (·.1) ↔
      key ∈ identifiers.map Text.lowercase ∨ key ∈ r.aliases.map (·.1) := by
  cases identifiers with
  | nil => simp [register]
  | cons canonical rest => exact mem_keys_foldl_assign canonical (canonical :: rest) key

/-! ## A row of them -/

theorem registerAll_concat (calls : List (Toolset × List String))
    (call : Toolset × List String) :
    registerAll (calls ++ [call]) = ((registerAll calls).register call.1 call.2).1 := by
  simp [registerAll, List.foldl_append]

theorem built_registerAll (calls : List (Toolset × List String)) : (registerAll calls).Built := by
  induction calls using List.reverseRecOn with
  | nil => exact .empty
  | append_singleton calls call ih =>
    rw [registerAll_concat]
    exact ih.register call.1 call.2

theorem Built.tidy (h : r.Built) : r.Tidy := by
  induction h with
  | empty => exact .empty
  | register _ toolset identifiers ih => exact ih.register toolset identifiers

/-- The identifiers of a registry are those that its registrations list. -/
theorem mem_aliases_registerAll (calls : List (Toolset × List String)) (key : String) :
    key ∈ (registerAll calls).aliases.map (·.1) ↔
      ∃ call ∈ calls, key ∈ call.2.map Text.lowercase := by
  induction calls using List.reverseRecOn with
  | nil => simp [registerAll, empty]
  | append_singleton calls call ih =>
    rw [registerAll_concat, mem_aliases_register, ih]
    simp only [List.mem_append, List.mem_singleton, or_and_right, exists_or, exists_eq_left]
    exact or_comm

/-! ## Names and what they are listed for -/

theorem pairwise_sorted (texts : List String) : (sorted texts).Pairwise (· ≤ ·) := by
  have htrans (a b c : String) (hab : decide (a ≤ b) = true) (hbc : decide (b ≤ c) = true) :
      decide (a ≤ c) = true := by
    rw [decide_eq_true_iff] at hab hbc ⊢
    exact String.le_trans hab hbc
  have htotal (a b : String) : (decide (a ≤ b) || decide (b ≤ a)) = true := by
    simpa using String.le_total a b
  exact (List.pairwise_mergeSort htrans htotal texts).imp of_decide_eq_true

theorem nodup_sorted {texts : List String} : (sorted texts).Nodup ↔ texts.Nodup :=
  (List.mergeSort_perm _ _).nodup_iff

theorem mem_sorted {texts : List String} {text : String} : text ∈ sorted texts ↔ text ∈ texts :=
  List.mem_mergeSort

theorem mem_aliasesFor {r : Registry} {name key : String} :
    key ∈ r.aliasesFor name ↔ (key, name) ∈ r.aliases := by
  rw [aliasesFor, mem_sorted]
  simp

namespace Tidy

variable (h : r.Tidy)

include h

theorem nodup_aliasesFor (name : String) : (r.aliasesFor name).Nodup := by
  rw [aliasesFor, nodup_sorted]
  exact h.aliases.sublist (List.filter_sublist.map _)

/-- An identifier leads to one name alone. -/
theorem disjoint_aliasesFor {name name' : String} (hne : name ≠ name') :
    List.Disjoint (r.aliasesFor name) (r.aliasesFor name') := by
  intro key hkey hkey'
  have hentry := List.inj_on_of_nodup_map h.aliases (mem_aliasesFor.mp hkey)
    (mem_aliasesFor.mp hkey') rfl
  exact hne (congrArg Prod.snd hentry)

theorem nodup_names : r.names.Nodup := nodup_sorted.mpr h.toolsets

theorem nodup_flatMap_aliasesFor : (r.names.flatMap r.aliasesFor).Nodup := by
  rw [List.nodup_flatMap]
  exact ⟨fun name _ => h.nodup_aliasesFor name, h.nodup_names.imp h.disjoint_aliasesFor⟩

theorem mem_flatMap_aliasesFor {key : String} :
    key ∈ r.names.flatMap r.aliasesFor ↔ key ∈ r.aliases.map (·.1) := by
  simp only [List.mem_flatMap, List.mem_map, mem_aliasesFor]
  constructor
  · rintro ⟨name, -, hentry⟩
    exact ⟨_, hentry, rfl⟩
  · rintro ⟨⟨_, name⟩, hentry, rfl⟩
    exact ⟨name, mem_sorted.mpr (h.leads _ hentry), hentry⟩

end Tidy

theorem contains_iff {identifier : String} :
    r.contains identifier = true ↔ Text.lowercase identifier ∈ r.aliases.map (·.1) := by
  rw [contains, List.lookup_isSome_iff, List.mem_map]
  constructor
  · rintro ⟨entry, hentry, hkey⟩
    exact ⟨entry, hentry, (beq_iff_eq.mp hkey).symm⟩
  · rintro ⟨entry, hentry, hkey⟩
    exact ⟨entry, hentry, beq_iff_eq.mpr hkey.symm⟩

theorem contains_registerAll_iff {calls : List (Toolset × List String)} {identifier : String} :
    (registerAll calls).contains identifier = true ↔ Listed calls identifier := by
  rw [contains_iff, mem_aliases_registerAll]
  simp only [Listed, List.mem_map]

/-! ## The registry as a whole -/

/-- What a registry answers that a row of registrations builds. -/
structure Coherent (calls : List (Toolset × List String)) (r : Registry) : Prop where
  /-- Those identifiers are known that were listed, in some letter case. -/
  known : ∀ identifier, r.contains identifier = true ↔ Listed calls identifier
  found : ∀ identifier context,
    (∃ t, r.get identifier context = .ok t) ↔ r.contains identifier = true
  unknown : ∀ identifier context, r.contains identifier = false →
    r.get identifier context = .error ⟨.unknownToolset identifier, context⟩
  /-- A name that an identifier leads to has a toolset. -/
  kept : ∀ identifier canonical, r.aliases.lookup identifier = some canonical →
    ∃ t, r.toolsets.lookup canonical = some t
  /-- Letter case does not matter. -/
  caseless : ∀ identifier other, Text.lowercase identifier = Text.lowercase other →
    r.get? identifier = r.get? other
  sorted : r.names.Pairwise (· ≤ ·)
  distinct : r.names.Nodup
  apart : ∀ name ∈ r.names, ∀ other ∈ r.names, name ≠ other →
    List.Disjoint (r.aliasesFor name) (r.aliasesFor other)
  /-- Among the names, the identifiers that were listed are divided. -/
  once : (r.names.flatMap r.aliasesFor).Nodup
  whole : ∀ key, key ∈ r.names.flatMap r.aliasesFor ↔
    ∃ call ∈ calls, ∃ listed ∈ call.2, Text.lowercase listed = key
  /-- Only a registration without identifiers is refused, it leaves the registry as it is, and there is no
  trace of it later. -/
  refused : ∀ toolset identifiers,
    (∃ left e, r.register toolset identifiers = (left, some e)) ↔ identifiers = []
  unchanged : ∀ toolset identifiers left e,
    r.register toolset identifiers = (left, some e) → left = r
  untouched : ∀ before toolset after, calls = before ++ (toolset, []) :: after →
    r = registerAll (before ++ after)

/-- **Whatever was registered, the two tables of a registry agree.** -/
theorem registerAll_coherent (calls : List (Toolset × List String)) :
    Coherent calls (registerAll calls) := by
  have hbuilt := built_registerAll calls
  have htidy := hbuilt.tidy
  constructor
  case known =>
    intro identifier
    exact contains_registerAll_iff
  case found =>
    intro identifier context
    rw [← hbuilt.isSome_get?, get]
    cases (registerAll calls).get? identifier <;> simp
  case unknown =>
    intro identifier context h
    rw [get, get?_eq_none_of_not_contains h]
  case kept =>
    intro identifier canonical h
    exact Option.isSome_iff_exists.mp (hbuilt.isSome_lookup h)
  case caseless =>
    intro identifier other h
    rw [get?, get?, h]
  case sorted => exact pairwise_sorted _
  case distinct => exact htidy.nodup_names
  case apart =>
    intro name _ other _ hne
    exact htidy.disjoint_aliasesFor hne
  case once => exact htidy.nodup_flatMap_aliasesFor
  case whole =>
    intro key
    rw [htidy.mem_flatMap_aliasesFor, mem_aliases_registerAll]
    simp only [List.mem_map]
  case refused =>
    intro toolset identifiers
    constructor
    · rintro ⟨left, e, h⟩
      exact (register_eq_some_iff.mp h).1
    · rintro rfl
      exact ⟨_, _, rfl⟩
  case unchanged =>
    intro toolset identifiers left e h
    exact (register_eq_some_iff.mp h).2.1
  case untouched =>
    rintro before toolset after rfl
    simp [registerAll, register]

/-- A name may be left without identifiers: those of the first toolset are taken by the second. -/
example : (registerAll [(.gcc, ["gcc"]), (.clang, ["GCC", "cc"])]).toolsets.map (·.1)
      = ["gcc", "GCC"] ∧
    (registerAll [(.gcc, ["gcc"]), (.clang, ["GCC", "cc"])]).aliases
      = [("gcc", "GCC"), ("cc", "GCC")] := by
  decide

end Registry

end CMakeGen
