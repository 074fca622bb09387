import CMakeGen.Proofs.Document.Unwritable
import CMakeGen.Proofs.Workspace.WellFormed

/-!
# Why a document is no workspace

Most that can be wrong with a document is diagnosed: there is a message for the user and the place
that it is about. **Two things are not** (`ofValue_error`). A text may have to be made of a value that
holds an integer with too many digits, and the configurations of a project may be a value that there
is nothing to go through in.

Every reader fails for a reason that lies in the value it reads (`ReadError.Within`), so the reason is
handed upwards from a field to its table, and from a table to the list that it is in.
-/

namespace CMakeGen

/-! ## Readers -/

namespace Workspace

theorem mem_of_lookup {table : Table} {key : String} {value : Value}
    (h : table.lookup key = some value) : (key, value) ∈ table := by
  obtain ⟨before, after, rfl, -⟩ := List.lookup_eq_some_iff.mp h
  exact List.mem_append_right _ List.mem_cons_self

/-- What is said is diagnosed, or is about an integer in the value. -/
inductive ReadError.Within (value : Value) : ReadError → Prop where
  | diagnosed (d : Diagnosis) : Within value (.diagnosed d)
  | tooManyDigits (h : value.Unwritable) : Within value (.tooManyDigits .writing)

theorem ReadError.Within.mono {value outer : Value} {e : ReadError} (h : e.Within value)
    (hmono : value.Unwritable → outer.Unwritable) : e.Within outer := by
  cases h with
  | diagnosed d => exact .diagnosed d
  | tooManyDigits h => exact .tooManyDigits (hmono h)

/-- A reader that fails has its reason within the value. -/
def FailsWithin {α : Type} (value : Value) (read : Except ReadError α) : Prop :=
  ∀ e, read = .error e → e.Within value

namespace FailsWithin

variable {α β : Type} {value outer : Value} {read : Except ReadError α}

theorem ok (value : Value) (a : α) : FailsWithin value (.ok a) := fun _ h => by cases h

theorem diagnosed (value : Value) (d : Diagnosis) :
    FailsWithin value (.error (.diagnosed d) : Except ReadError α) := by
  rintro _ ⟨⟩
  exact .diagnosed d

theorem bind {next : α → Except ReadError β} (h : FailsWithin value read)
    (hnext : ∀ a, read = .ok a → FailsWithin value (next a)) :
    FailsWithin value (read >>= next) := by
  intro e he
  rcases bind_eq_error he with he | ⟨a, ha, he⟩
  · exact h e he
  · exact hnext a ha e he

theorem mono (h : FailsWithin value read) (hmono : value.Unwritable → outer.Unwritable) :
    FailsWithin outer read :=
  fun e he => (h e he).mono hmono

theorem field {table : Table} {key : String} (h : FailsWithin value read)
    (hlookup : table.lookup key = some value) : FailsWithin (.table table) read :=
  h.mono (.entry (mem_of_lookup hlookup))

theorem ofText {made : Except TooManyDigits α}
    (h : ∀ e, made = .error e → e = .writing ∧ value.Unwritable) :
    FailsWithin value (made.mapError .tooManyDigits) := by
  intro e he
  obtain ⟨_, herror, rfl⟩ := mapError_eq_error he
  obtain ⟨rfl, hvalue⟩ := h _ herror
  exact .tooManyDigits hvalue

end FailsWithin

variable {table : Table} {entry : Value}

/-! ### Fields -/

theorem failsWithin_textField (table : Table) (key : String) :
    FailsWithin (.table table) (textField table key) := by
  rw [textField]
  cases hlookup : table.lookup key with
  | none => exact .ok _ none
  | some value =>
    refine .field (.ofText fun e he => ?_) hlookup
    rcases bind_eq_error he with he | ⟨_, -, he⟩
    · exact Value.text_error he
    · cases he

theorem failsWithin_stringField (table : Table) (key context : String) :
    FailsWithin (.table table) (stringField table key context) := by
  rw [stringField]
  split
  · exact .ok _ none
  · exact .ok _ none
  · exact .ok _ _
  · next hlookup =>
    have hshown := FailsWithin.field (.ofText (Value.shown_error _)) hlookup
    exact hshown.bind fun _ _ => .diagnosed _ _

theorem failsWithin_textsField (table : Table) (key context : String) :
    FailsWithin (.table table) (textsField table key context) := by
  rw [textsField]
  split
  · exact .ok _ []
  · next items hlookup =>
    refine .field (.ofText fun e he => ?_) hlookup
    obtain ⟨item, hmem, hitem⟩ := mapM_eq_error he
    obtain ⟨rfl, hlong⟩ := Value.text_error hitem
    exact ⟨rfl, .item hmem hlong⟩
  · exact .diagnosed _ _

theorem failsWithin_named? (entry : Value) : FailsWithin entry (named? entry) := by
  cases entry with
  | table fields => exact (failsWithin_textField fields "name").bind fun _ _ => .ok _ _
  | _ => exact .ok _ none

/-- The mode of a label that was read as a string is never shown. -/
theorem failsWithin_readPic (value : Value) (context label : Option String) :
    FailsWithin value (readPic context ((label.map Value.string).getD .null)) := by
  cases label with
  | none => exact .ok _ _
  | some label =>
    intro e he
    obtain ⟨problem, -, rfl⟩ := mapError_eq_error he
    exact .diagnosed _

theorem failsWithin_readConfiguration (project : String) (entry : Value) :
    FailsWithin entry (readConfiguration project entry) := by
  refine (failsWithin_named? entry).bind fun named hnamed => ?_
  rcases named with _ | ⟨table, name⟩
  · exact .diagnosed _ _
  obtain ⟨rfl, -⟩ := named?_eq_ok_iff.mp hnamed
  have hstring := failsWithin_stringField table
  have htexts := failsWithin_textsField table
  refine (hstring "pic" _).bind fun label _ => ?_
  refine (failsWithin_readPic _ _ label).bind fun _ _ => ?_
  refine (htexts "include_dirs" _).bind fun _ _ => ?_
  refine (htexts "defines" _).bind fun _ _ => ?_
  refine (htexts "lib_dirs" _).bind fun _ _ => ?_
  refine (htexts "links" _).bind fun _ _ => ?_
  refine (htexts "link_options" _).bind fun _ _ => ?_
  refine (hstring "output_dir" _).bind fun _ _ => ?_
  refine (hstring "dialect" _).bind fun _ _ => ?_
  refine (hstring "pch_header" _).bind fun _ _ => ?_
  refine (hstring "toolset" _).bind fun _ _ => ?_
  refine (hstring "architecture" _).bind fun _ _ => ?_
  exact (hstring "system" _).bind fun _ _ => .ok _ _

/-! ### Projects -/

/-- Whether there is something to go through in a value. -/
def isSequence : Value → Bool
  | .list _ | .string _ | .table _ => true
  | _ => false

/-- A project with configurations that there is nothing to go through in. -/
def Unlisted (entry : Value) : Prop :=
  ∃ table value, entry = .table table ∧ table.lookup "configuration" = some value ∧
    isSequence value = false

theorem configurationEntries_error {e : ReadError} (h : configurationEntries table = .error e) :
    e = .notSequence ∧ Unlisted (.table table) := by
  rw [configurationEntries] at h
  split at h
  · cases h
  · cases h
  · cases h
  · cases h
  · next value hlist hstring htable hlookup =>
    cases h
    refine ⟨rfl, table, value, rfl, hlookup, ?_⟩
    cases value with
    | list items => exact absurd rfl (hlist items)
    | string text => exact absurd rfl (hstring text)
    | table fields => exact absurd rfl (htable fields)
    | _ => rfl

/-- The entries that configurations are read from hold no integer that the table does not. -/
theorem unwritable_of_configurationEntries {entries : List Value}
    (h : configurationEntries table = .ok entries) (hlong : (Value.list entries).Unwritable) :
    (Value.table table).Unwritable := by
  have htexts {α : Type} {f : α → String} {keys : List α} :
      ¬ (Value.list (keys.map fun key => .string (f key))).Unwritable := by
    intro hlong
    obtain ⟨_, hmem, hitem⟩ := Value.unwritable_list_iff.mp hlong
    obtain ⟨key, -, rfl⟩ := List.mem_map.mp hmem
    cases hitem
  rw [configurationEntries] at h
  split at h
  · cases h
    obtain ⟨_, hmem, -⟩ := Value.unwritable_list_iff.mp hlong
    cases hmem
  · next hlookup =>
    cases h
    exact .entry (mem_of_lookup hlookup) hlong
  · cases h
    exact absurd hlong htexts
  · cases h
    exact absurd hlong htexts
  · cases h

theorem failsWithin_readConfigurations (p : ProjectId) (project : String) (entries : List Value)
    (s : Store) : FailsWithin (.list entries) (readConfigurations p project entries s) := by
  induction entries generalizing s with
  | nil => exact .ok _ s
  | cons entry rest ih =>
    have hentry : FailsWithin (.list (entry :: rest)) (readConfiguration project entry) :=
      (failsWithin_readConfiguration project entry).mono (.item List.mem_cons_self)
    refine hentry.bind fun settings _ => ?_
    refine FailsWithin.bind (fun e he => ?_) fun s' _ => (ih s').mono (.cons entry)
    obtain ⟨d, rfl⟩ := accepted_error he
    exact .diagnosed d

theorem readProject_error {root : Path} {s : Store} {e : ReadError}
    (hread : readProject root entry s = .error e) :
    e.Within entry ∨ e = .notSequence ∧ Unlisted entry := by
  rcases bind_eq_error hread with h | ⟨_ | ⟨table, name⟩, hnamed, h⟩
  · exact .inl (failsWithin_named? entry e h)
  · exact .inl (FailsWithin.diagnosed _ _ e h)
  obtain ⟨rfl, -⟩ := named?_eq_ok_iff.mp hnamed
  rcases bind_eq_error h with h | ⟨_, -, h⟩
  · exact .inl (failsWithin_stringField _ _ _ e h)
  rcases bind_eq_error h with h | ⟨_, -, h⟩
  · exact .inl (failsWithin_stringField _ _ _ e h)
  rcases bind_eq_error h with h | ⟨_, -, h⟩
  · exact .inl (failsWithin_textField _ _ e h)
  rcases bind_eq_error h with h | ⟨_, -, h⟩
  · exact .inl (failsWithin_textsField _ _ _ e h)
  -- The list of the configurations is the only field that is not checked.
  rcases bind_eq_error h with h | ⟨entries, hentries, h⟩
  · exact .inr (configurationEntries_error h)
  rcases bind_eq_error h with h | ⟨_, -, h⟩
  · have hwithin := failsWithin_readConfigurations _ name entries _ e h
    exact .inl (hwithin.mono (unwritable_of_configurationEntries hentries))
  · cases h

theorem readProjects_error {root : Path} {entries : List Value} {s : Store}
    {done : List (ProjectId × List String)} {e : ReadError}
    (h : readProjects root entries s done = .error e) :
    e.Within (.list entries) ∨ e = .notSequence ∧ ∃ entry ∈ entries, Unlisted entry := by
  induction entries generalizing s done with
  | nil => cases h
  | cons entry rest ih =>
    have hfirst : entry.Unwritable → (Value.list (entry :: rest)).Unwritable :=
      .item List.mem_cons_self
    rcases bind_eq_error h with h | ⟨⟨s', p, table, name⟩, hproject, h⟩
    · rcases readProject_error h with hwithin | ⟨he, hunlisted⟩
      · exact .inl (hwithin.mono hfirst)
      · exact .inr ⟨he, entry, List.mem_cons_self, hunlisted⟩
    · dsimp only at h
      split at h
      · cases h
        exact .inl (.diagnosed _)
      · rcases bind_eq_error h with h | ⟨_, -, h⟩
        · have hwithin := failsWithin_textsField _ _ _ e h
          obtain ⟨⟨rfl, -⟩, -⟩ := readProject_describes hproject
          exact .inl (hwithin.mono hfirst)
        · rcases ih h with hwithin | ⟨he, found, hmem, hunlisted⟩
          · exact .inl (hwithin.mono (.cons entry))
          · exact .inr ⟨he, found, List.mem_cons_of_mem entry hmem, hunlisted⟩

theorem lookup_of_projectEntries {entries : List Value} (h : projectEntries table = .ok entries)
    (hne : entries ≠ []) : table.lookup "project" = some (.list entries) := by
  have hgetD := projectEntries_eq_ok_iff.mp h
  cases hlookup : table.lookup "project" with
  | none =>
    rw [hlookup] at hgetD
    cases hgetD
    exact absurd rfl hne
  | some value =>
    rw [hlookup] at hgetD
    exact congrArg some hgetD

/-- **What is wrong with a document is diagnosed, but for integers and configurations.** -/
theorem ofValue_error {root : Path} {defaultName : String} {e : ReadError}
    (h : ofValue root defaultName (.table table) = .error e) :
    e.Within (.table table) ∨ e = .notSequence ∧ ∃ entries,
      table.lookup "project" = some (.list entries) ∧ ∃ entry ∈ entries, Unlisted entry := by
  rcases bind_eq_error h with h | ⟨_, -, h⟩
  · exact .inl (failsWithin_textField _ _ e h)
  rcases bind_eq_error h with h | ⟨entries, hentries, h⟩
  · obtain ⟨d, -, rfl⟩ := mapError_eq_error h
    exact .inl (.diagnosed d)
  rcases bind_eq_error h with h | ⟨⟨store, pending⟩, -, h⟩
  · have hlookup (item : Value) (hmem : item ∈ entries) :
        table.lookup "project" = some (.list entries) :=
      lookup_of_projectEntries (mapError_eq_ok_iff.mp hentries) (List.ne_nil_of_mem hmem)
    rcases readProjects_error h with hwithin | ⟨he, entry, hmem, hunlisted⟩
    · refine .inl (hwithin.mono fun hlong => ?_)
      obtain ⟨item, hmem, -⟩ := Value.unwritable_list_iff.mp hlong
      exact .entry (mem_of_lookup (hlookup item hmem)) hlong
    · exact .inr ⟨he, entries, hlookup entry hmem, entry, hmem, hunlisted⟩
  rcases bind_eq_error h with h | ⟨_, -, h⟩
  · obtain ⟨d, -, rfl⟩ := mapError_eq_error h
    exact .inl (.diagnosed d)
  · cases h

end Workspace

end CMakeGen
