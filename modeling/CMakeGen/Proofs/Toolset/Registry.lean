import CMakeGen.Toolset.Registry

/-!
# Registries that come about by registering

A registry is two tables, one from identifiers to canonical names and one from these to toolsets, and
nothing in its type ties them together. **In a registry that is built by registering, an identifier
that is known leads to a toolset** (`Built.isSome_get?`): a registration puts the toolset under the
very name that its identifiers lead to, and no name is ever taken away.

The toolsets of the standard registry answer from what a project is, and never look at the
configurations that it lists (`ignoresLists_of_standard`) nor at the toolset that is asked for
(`ignoresChoice_of_standard`).
-/

namespace CMakeGen

namespace Registry

/-- A registry that comes about by registering toolsets. -/
inductive Built : Registry → Prop where
  | empty : Built .empty
  | register {r : Registry} (before : Built r) (toolset : Toolset) (identifiers : List String) :
      Built (r.register toolset identifiers).1

/-- After a registration its identifiers lead to one name, and the others where they led before. -/
theorem lookup_foldl_assign (canonical : String) (identifiers : List String)
    (aliases : List (String × String)) (key : String) :
    (identifiers.foldl (fun aliases identifier =>
        Association.assign (Text.lowercase identifier) canonical aliases) aliases).lookup key
      = if key ∈ identifiers.map Text.lowercase then some canonical else aliases.lookup key := by
  induction identifiers generalizing aliases with
  | nil => rfl
  | cons identifier rest ih =>
    rw [List.foldl_cons, ih, Association.lookup_assign]
    by_cases hrest : key ∈ rest.map Text.lowercase <;>
      by_cases hkey : key = Text.lowercase identifier <;> simp [hrest, hkey]

theorem Built.isSome_lookup {r : Registry} (h : r.Built) {key canonical : String}
    (hkey : r.aliases.lookup key = some canonical) : (r.toolsets.lookup canonical).isSome := by
  induction h with
  | empty => cases hkey
  | @register r _ toolset identifiers ih =>
    cases identifiers with
    | nil => exact ih hkey
    | cons first rest =>
      show ((Association.assign first toolset r.toolsets).lookup canonical).isSome
      rw [Association.lookup_assign]
      by_cases hfirst : canonical = first
      · rw [if_pos hfirst]
        rfl
      · rw [if_neg hfirst]
        change (List.foldl _ r.aliases (first :: rest)).lookup key = some canonical at hkey
        rw [lookup_foldl_assign] at hkey
        split at hkey
        · -- The identifiers of this registration lead to its own name.
          exact absurd (Option.some.inj hkey).symm hfirst
        · exact ih hkey

/-- **Whoever is known is there.** -/
theorem Built.isSome_get? {r : Registry} (h : r.Built) (identifier : String) :
    (r.get? identifier).isSome = r.contains identifier := by
  rw [get?, contains]
  cases hkey : r.aliases.lookup (Text.lowercase identifier) with
  | none => rfl
  | some canonical => exact h.isSome_lookup hkey

theorem get?_eq_none_of_not_contains {r : Registry} {identifier : String}
    (h : r.contains identifier = false) : r.get? identifier = none := by
  rw [contains, Option.isSome_eq_false_iff, Option.isNone_iff_eq_none] at h
  rw [get?, h]
  rfl

theorem get?_of_get {r : Registry} {identifier : String} {context : Option String} {t : Toolset}
    (h : r.get identifier context = .ok t) : r.get? identifier = some t := by
  rw [get] at h
  split at h
  · next hget => rw [hget, Except.ok.inj h]
  · cases h

theorem get?_of_resolve {r : Registry} {s : Store} {override : Option String} {c : ConfigurationId}
    {t : Toolset} (h : r.resolve s override c = .ok t) :
    r.get? (chosenToolset override (s.configuration c)) = some t :=
  get?_of_get h

/-- An override that says anything decides alone. -/
theorem chosenToolset_of_override {identifier : String} (h : identifier ≠ "")
    (settings : Configuration) : chosenToolset (some identifier) settings = identifier := by
  simp [chosenToolset, Option.filter_some, h]

theorem built_standard : standard.Built := by
  have hgcc := Built.empty.register .gcc ["gcc", "gnu"]
  have hclang := hgcc.register .clang ["clang", "llvm"]
  exact hclang.register .msc ["msc", "msvc", "vs"]

theorem eq_of_standard {identifier : String} {t : Toolset}
    (h : Registry.standard.get? identifier = some t) : t = .gcc ∨ t = .clang ∨ t = .msc := by
  obtain ⟨canonical, -, hlookup⟩ := Option.bind_eq_some_iff.mp h
  obtain ⟨before, after, hsplit, -⟩ := List.lookup_eq_some_iff.mp hlookup
  have hmem : (canonical, t) ∈ [("gcc", Toolset.gcc), ("clang", .clang), ("msc", .msc)] := by
    show _ ∈ Registry.standard.toolsets
    rw [hsplit]
    exact List.mem_append_right _ List.mem_cons_self
  simp only [List.mem_cons, Prod.mk.injEq, List.not_mem_nil, or_false] at hmem
  exact hmem.imp And.right (.imp And.right And.right)

end Registry

/-! ## What toolsets do not look at -/

/-- A toolset goes by what a project is, and not by the configurations that it lists. -/
structure Toolset.IgnoresLists (t : Toolset) : Prop where
  libraryName : ∀ project settings configurations,
    t.libraryName { project with configurations := configurations } settings
      = t.libraryName project settings
  linkerFlags : ∀ project settings configurations,
    t.linkerFlags (some { project with configurations := configurations }) settings
      = t.linkerFlags (some project) settings

theorem Registry.ignoresLists_of_standard {identifier : String} {t : Toolset}
    (h : Registry.standard.get? identifier = some t) : t.IgnoresLists := by
  rcases eq_of_standard h with rfl | rfl | rfl <;> exact ⟨fun _ _ _ => rfl, fun _ _ _ => rfl⟩

/-- A toolset answers the same, whichever toolset the settings ask for. -/
structure Toolset.IgnoresChoice (t : Toolset) : Prop where
  libraryName : ∀ project settings choice,
    t.libraryName project { settings with toolset := choice } = t.libraryName project settings
  linkerFlags : ∀ project settings choice,
    t.linkerFlags project { settings with toolset := choice } = t.linkerFlags project settings

theorem Registry.ignoresChoice_of_standard {identifier : String} {t : Toolset}
    (h : Registry.standard.get? identifier = some t) : t.IgnoresChoice := by
  rcases eq_of_standard h with rfl | rfl | rfl <;> exact ⟨fun _ _ _ => rfl, fun _ _ _ => rfl⟩

end CMakeGen
