import CMakeGen.Proofs.Toolset.Coherence

/-!
# Which registration an identifier goes by

An identifier is looked up in two steps, and each of the two tables remembers the last registration
that wrote to it. The identifier leads to the name of the last registration that lists it, and the name
to the toolset of the last registration under that name. **The two need not be the same registration**:
whoever registers under a name that is taken gives a new toolset to all identifiers of the name, listed
or not (`registerAll_latest`). So the last registration that lists an identifier decides alone only as
long as nobody uses its name again.

`latest?` looks a row of registrations up from its end, and the two tables are proved to be that
(`lookup_aliases_registerAll`, `lookup_toolsets_registerAll`), by induction over the row with one
registration as the step.
-/

namespace CMakeGen

namespace Registry

/-! ## Looking a row of registrations up -/

/-- The last registration of a row that has a property. -/
def latest? (p : Toolset × List String → Bool) (calls : List (Toolset × List String)) :
    Option (Toolset × List String) :=
  calls.reverse.find? p

/-- The registration lists the identifier, in some letter case. -/
def lists (identifier : String) (call : Toolset × List String) : Bool :=
  decide (Text.lowercase identifier ∈ call.2.map Text.lowercase)

/-- The registration is one under that canonical name. -/
def isUnder (name : String) (call : Toolset × List String) : Bool :=
  decide (call.2.head? = some name)

/-- The canonical name of the last registration that lists an identifier. -/
def nameOf? (calls : List (Toolset × List String)) (identifier : String) : Option String :=
  (latest? (lists identifier) calls).bind fun listing => listing.2.head?

/-- The last registration under the name that an identifier leads to. -/
def deciding? (calls : List (Toolset × List String)) (identifier : String) :
    Option (Toolset × List String) :=
  (nameOf? calls identifier).bind fun name => latest? (isUnder name) calls

section

variable {p : Toolset × List String → Bool} {calls : List (Toolset × List String)}
  {call : Toolset × List String}

theorem latest?_concat :
    latest? p (calls ++ [call]) = if p call = true then some call else latest? p calls := by
  rw [latest?, List.reverse_append, List.reverse_singleton, List.singleton_append, List.find?_cons]
  cases p call <;> rfl

theorem latest?_of_split {before after : List (Toolset × List String)}
    (h : calls = before ++ call :: after) (hcall : p call = true)
    (hafter : ∀ later ∈ after, p later = false) : latest? p calls = some call := by
  have hnone : after.reverse.find? p = none := by
    rw [List.find?_eq_none]
    intro later hlater
    simp [hafter later (List.mem_reverse.mp hlater)]
  rw [h, latest?, List.reverse_append, List.reverse_cons, List.append_assoc, List.find?_append, hnone,
    List.singleton_append, List.find?_cons_of_pos hcall]
  rfl

/-- Whoever registers under a name lists it. -/
theorem lists_of_isUnder {name : String} (h : isUnder name call = true) : lists name call = true := by
  have hhead := of_decide_eq_true h
  obtain ⟨rest, hrest⟩ := List.head?_eq_some_iff.mp hhead
  rw [lists, hrest]
  exact decide_eq_true List.mem_cons_self

theorem lists_iff {identifier : String} :
    lists identifier call = true ↔
      ∃ listed ∈ call.2, Text.lowercase listed = Text.lowercase identifier := by
  rw [lists, decide_eq_true_iff, List.mem_map]

theorem exists_head?_of_lists {identifier : String} (h : lists identifier call = true) :
    ∃ name, call.2.head? = some name := by
  obtain ⟨listed, hlisted, -⟩ := lists_iff.mp h
  exact Option.isSome_iff_exists.mp (List.isSome_head?.mpr (List.ne_nil_of_mem hlisted))

end

/-! ## The two tables -/

section

variable (r : Registry) (call : Toolset × List String)

/-- One registration leads its identifiers to its name, and leaves the others. -/
theorem lookup_aliases_register (identifier : String) :
    (r.register call.1 call.2).1.aliases.lookup (Text.lowercase identifier)
      = if lists identifier call = true then call.2.head?
        else r.aliases.lookup (Text.lowercase identifier) := by
  obtain ⟨toolset, identifiers⟩ := call
  cases identifiers with
  | nil => rfl
  | cons canonical rest =>
    refine (lookup_foldl_assign canonical (canonical :: rest) r.aliases _).trans ?_
    simp only [lists, decide_eq_true_eq, List.head?_cons]

/-- One registration puts its toolset under its name, and leaves the others. -/
theorem lookup_toolsets_register (name : String) :
    (r.register call.1 call.2).1.toolsets.lookup name
      = if isUnder name call = true then some call.1 else r.toolsets.lookup name := by
  obtain ⟨toolset, identifiers⟩ := call
  cases identifiers with
  | nil => rfl
  | cons canonical rest =>
    have hcomm : canonical = name ↔ name = canonical := eq_comm
    refine (Association.lookup_assign canonical name toolset r.toolsets).trans ?_
    simp only [isUnder, decide_eq_true_eq, List.head?_cons, Option.some.injEq, hcomm]

end

section

variable (calls : List (Toolset × List String))

theorem nameOf?_concat (call : Toolset × List String) (identifier : String) :
    nameOf? (calls ++ [call]) identifier
      = if lists identifier call = true then call.2.head? else nameOf? calls identifier := by
  rw [nameOf?, latest?_concat]
  split <;> rfl

theorem lookup_aliases_registerAll (identifier : String) :
    (registerAll calls).aliases.lookup (Text.lowercase identifier) = nameOf? calls identifier := by
  induction calls using List.reverseRecOn with
  | nil => rfl
  | append_singleton calls call ih =>
    rw [registerAll_concat, nameOf?_concat, lookup_aliases_register, ih]

theorem lookup_toolsets_registerAll (name : String) :
    (registerAll calls).toolsets.lookup name = (latest? (isUnder name) calls).map (·.1) := by
  induction calls using List.reverseRecOn with
  | nil => rfl
  | append_singleton calls call ih =>
    rw [registerAll_concat, latest?_concat, lookup_toolsets_register, ih]
    split <;> rfl

/-- **An identifier goes by the last registration under the name that it leads to.** -/
theorem get?_registerAll (identifier : String) :
    (registerAll calls).get? identifier = (deciding? calls identifier).map (·.1) := by
  rw [get?, lookup_aliases_registerAll, deciding?]
  cases nameOf? calls identifier with
  | none => rfl
  | some name => exact lookup_toolsets_registerAll calls name

/-- The names are those that there were registrations under. -/
theorem mem_names_registerAll {name : String} :
    name ∈ (registerAll calls).names ↔ ∃ call ∈ calls, call.2.head? = some name := by
  have hkeys : name ∈ (registerAll calls).toolsets.map (·.1) ↔
      ((registerAll calls).toolsets.lookup name).isSome = true := by
    rw [List.lookup_isSome_iff, List.mem_map]
    constructor
    · rintro ⟨entry, hentry, rfl⟩
      exact ⟨entry, hentry, beq_self_eq_true _⟩
    · rintro ⟨entry, hentry, hkey⟩
      exact ⟨entry, hentry, (beq_iff_eq.mp hkey).symm⟩
  rw [names, mem_sorted, hkeys, lookup_toolsets_registerAll, Option.isSome_map, latest?,
    List.find?_isSome]
  simp only [List.mem_reverse, isUnder, decide_eq_true_eq]

/-- One more registration gives its toolset to what it lists and to what already led to its name. -/
theorem get?_registerAll_concat (call : Toolset × List String) (identifier : String) :
    (registerAll (calls ++ [call])).get? identifier
      = if lists identifier call || (nameOf? calls identifier).any fun name => isUnder name call
        then some call.1 else (registerAll calls).get? identifier := by
  rw [get?_registerAll, get?_registerAll, deciding?, nameOf?_concat]
  cases hlists : lists identifier call with
  | true =>
    obtain ⟨name, hname⟩ := exists_head?_of_lists hlists
    have hunder : isUnder name call = true := decide_eq_true hname
    rw [if_pos rfl, hname, Option.bind_some, latest?_concat, if_pos hunder]
    rfl
  | false =>
    rw [if_neg (by decide), deciding?]
    cases nameOf? calls identifier with
    | none => rfl
    | some name =>
      rw [Option.bind_some, Option.bind_some, latest?_concat, Option.any_some, Bool.false_or]
      split <;> rfl

/-- Whoever lists an identifier last keeps it, as long as nobody uses the name again. -/
theorem get?_of_split {before after : List (Toolset × List String)}
    {listing : Toolset × List String} (h : calls = before ++ listing :: after) {identifier : String}
    (hlists : lists identifier listing = true)
    (hafter : ∀ later ∈ after,
      lists identifier later = false ∧ later.2.head? ≠ listing.2.head?) :
    (registerAll calls).get? identifier = some listing.1 := by
  obtain ⟨name, hname⟩ := exists_head?_of_lists hlists
  have hlisting := latest?_of_split h hlists fun later hlater => (hafter later hlater).1
  have hunder : latest? (isUnder name) calls = some listing := by
    refine latest?_of_split h (decide_eq_true hname) fun later hlater => ?_
    exact decide_eq_false fun heq => (hafter later hlater).2 (heq.trans hname.symm)
  rw [get?_registerAll, deciding?, nameOf?, hlisting, Option.bind_some, hname, Option.bind_some,
    hunder]
  rfl

end

/-! ## The registry as a whole -/

/-- Which registration of the row an identifier goes by. -/
structure LatestDecides (calls : List (Toolset × List String)) (r : Registry) : Prop where
  /-- It is the last one under the name of the last one that lists the identifier. -/
  found : ∀ identifier context, r.get identifier context
    = (deciding? calls identifier).elim (.error ⟨.unknownToolset identifier, context⟩)
        fun call => .ok call.1
  decided : ∀ identifier, (deciding? calls identifier).isSome = true ↔ Listed calls identifier
  /-- The two are one as long as nobody uses the name again. -/
  kept : ∀ before listing after, calls = before ++ listing :: after →
    ∀ identifier, lists identifier listing = true →
      (∀ later ∈ after, lists identifier later = false ∧ later.2.head? ≠ listing.2.head?) →
        r.get? identifier = some listing.1
  /-- One more registration changes what it lists and what already led to its name. -/
  changed : ∀ call identifier, (registerAll (calls ++ [call])).get? identifier
    = if lists identifier call || (nameOf? calls identifier).any fun name => isUnder name call
      then some call.1 else r.get? identifier
  names : ∀ name, name ∈ r.names ↔ ∃ call ∈ calls, call.2.head? = some name
  /-- A name that is not listed again stands for what was registered under it. -/
  shown : ∀ before call after, calls = before ++ call :: after →
    ∀ name, call.2.head? = some name → (∀ later ∈ after, lists name later = false) →
      r.get? name = some call.1

/-- **The latest registration under a name decides for all identifiers that lead to the name.** -/
theorem registerAll_latest (calls : List (Toolset × List String)) :
    LatestDecides calls (registerAll calls) := by
  constructor
  case found =>
    intro identifier context
    rw [get, get?_registerAll]
    cases deciding? calls identifier <;> rfl
  case decided =>
    intro identifier
    have hget := (built_registerAll calls).isSome_get? identifier
    rw [get?_registerAll, Option.isSome_map] at hget
    rw [hget, contains_registerAll_iff]
  case kept =>
    intro before listing after h identifier hlists hafter
    exact get?_of_split calls h hlists hafter
  case changed => exact get?_registerAll_concat calls
  case names =>
    intro name
    exact mem_names_registerAll calls
  case shown =>
    intro before call after h name hname hafter
    have hlists : lists name call = true := lists_of_isUnder (decide_eq_true hname)
    refine get?_of_split calls h hlists fun later hlater => ⟨hafter later hlater, fun hhead => ?_⟩
    -- Whoever uses the name again lists it.
    have hagain : lists name later = true := lists_of_isUnder (decide_eq_true (hhead.trans hname))
    rw [hafter later hlater] at hagain
    cases hagain

/-- The last registration to list `c99` is the first one, and it goes by the second one, which has the
same name. -/
theorem get?_of_name_taken :
    (∀ call ∈ [(Toolset.gcc, ["cc", "c99"]), (Toolset.clang, ["cc"])], call.2 ≠ []) ∧
    (latest? (lists "c99") [(.gcc, ["cc", "c99"]), (.clang, ["cc"])]).map (·.1.name)
      = some "gcc" ∧
    ((registerAll [(.gcc, ["cc", "c99"]), (.clang, ["cc"])]).get? "c99").map (·.name)
      = some "clang" := by
  refine ⟨by simp, ?_, ?_⟩
  · decide
  · decide

end Registry

end CMakeGen
