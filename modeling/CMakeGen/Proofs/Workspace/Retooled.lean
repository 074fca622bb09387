import CMakeGen.Proofs.Model.Retool
import CMakeGen.Proofs.Workspace.Unnoticed
import CMakeGen.Proofs.Workspace.Valid

/-!
# A document with another toolset

`Retooled t` relates a document to one in which every configuration asks for the toolset `t`. It speaks
of what stands under a key and not of the order of keys, so it does not matter where in a configuration
the toolset is written. A table with a toolset in every configuration is easily made (`retoolTable`), and it
is such a document if all toolsets that it replaces are strings or null (`retooled_retoolTable`).

**Both documents describe the same workspace but for the toolsets, or are refused for the same reason**
(`ofValue_retooled`). Of all readers only that of a configuration looks at the toolset, and what it makes
of it goes into the settings and nowhere else.
-/

namespace CMakeGen

namespace Workspace

/-! ## Documents -/

/-- Tables in which the same stands under every key but one. -/
def AgreeBut (key : String) (a b : Table) : Prop :=
  ∀ other, other ≠ key → b.lookup other = a.lookup other

/-- Fields that are lists with related items, or no lists and the same. -/
inductive ItemsRelated (R : Value → Value → Prop) : Option Value → Option Value → Prop where
  | list {items items' : List Value} (h : List.Forall₂ R items items') :
    ItemsRelated R (some (.list items)) (some (.list items'))
  | other {field : Option Value} (h : ∀ items, field ≠ some (.list items)) :
    ItemsRelated R field field

/-- Values that are related tables, or no tables and the same. -/
inductive TablesRelated (R : Table → Table → Prop) : Value → Value → Prop where
  | table {a b : Table} (h : R a b) : TablesRelated R (.table a) (.table b)
  | other {value : Value} (h : ∀ a, value ≠ .table a) : TablesRelated R value value

/-- Tables that differ in the items under one key, and these are tables that are related. -/
structure Itemwise (key : String) (R : Table → Table → Prop) (a b : Table) : Prop where
  others : AgreeBut key a b
  items : ItemsRelated (TablesRelated R) (a.lookup key) (b.lookup key)

/-- Settings, and the same with a toolset in place of the one that is asked for, if one is. -/
structure SettingsRetooled (t : String) (a b : Table) : Prop where
  others : AgreeBut "toolset" a b
  before : Optional IsString a "toolset"
  after : b.lookup "toolset" = some (.string t)

/-- The fields of a project, and the same with a toolset in every configuration. -/
abbrev FieldsRetooled (t : String) : Table → Table → Prop :=
  Itemwise "configuration" (SettingsRetooled t)

/-- A document, and the same with a toolset in every configuration. -/
def Retooled (t : String) : Table → Table → Prop := Itemwise "project" (FieldsRetooled t)

/-! ### Making one -/

/-- The table with other items in the list under a key, if there is one. -/
def mapItems (key : String) (f : Table → Table) (table : Table) : Table :=
  match table.lookup key with
  | some (.list items) =>
    Association.assign key (.list (items.map fun
      | .table fields => .table (f fields)
      | value => value)) table
  | _ => table

/-- The document with a toolset in every configuration. -/
def retoolTable (t : String) : Table → Table :=
  mapItems "project" (mapItems "configuration" (Association.assign "toolset" (.string t)))

/-- All toolsets that configurations ask for are strings or null. -/
def NamesToolsets (table : Table) : Prop :=
  ∀ projects, table.lookup "project" = some (.list projects) → ∀ fields, .table fields ∈ projects →
    ∀ entries, fields.lookup "configuration" = some (.list entries) →
      ∀ settings, .table settings ∈ entries → Optional IsString settings "toolset"

theorem agreeBut_assign (key : String) (value : Value) (table : Table) :
    AgreeBut key table (Association.assign key value table) := by
  intro other hother
  rw [Association.lookup_assign, if_neg hother]

theorem itemwise_mapItems {key : String} {R : Table → Table → Prop} {f : Table → Table}
    {table : Table} (h : ∀ items, table.lookup key = some (.list items) →
      ∀ fields, .table fields ∈ items → R fields (f fields)) :
    Itemwise key R table (mapItems key f table) := by
  unfold mapItems
  split
  · next items hitems =>
    refine ⟨agreeBut_assign key _ table, ?_⟩
    rw [Association.lookup_assign, if_pos rfl, hitems]
    refine .list (List.forall₂_map_right_iff.mpr (List.forall₂_same.mpr fun item hitem => ?_))
    cases item with
    | table fields => exact .table (h items hitems fields hitem)
    | _ => exact .other (by simp)
  · next hother => exact ⟨fun _ _ => rfl, .other hother⟩

/-- **The document with a toolset in every configuration is the one that is made.** -/
theorem retooled_retoolTable {table : Table} (h : NamesToolsets table) (t : String) :
    Retooled t table (retoolTable t table) := by
  refine itemwise_mapItems fun projects hprojects fields hfields => ?_
  refine itemwise_mapItems fun entries hentries settings hsettings => ?_
  refine ⟨agreeBut_assign _ _ _, h projects hprojects fields hfields entries hentries _ hsettings, ?_⟩
  rw [Association.lookup_assign, if_pos rfl]

/-! ## Reading -/

section

variable {key other : String} {a b : Table} (h : AgreeBut key a b) (hother : other ≠ key)

include h hother

theorem AgreeBut.textField_eq : textField b other = textField a other := by
  unfold textField
  rw [h other hother]

theorem AgreeBut.stringField_eq (context : String) :
    stringField b other context = stringField a other context := by
  unfold stringField
  rw [h other hother]

theorem AgreeBut.textsField_eq (context : String) :
    textsField b other context = textsField a other context := by
  unfold textsField
  rw [h other hother]

theorem AgreeBut.answerField_eq (default : Bool) :
    answerField b other default = answerField a other default := by
  unfold answerField
  rw [h other hother]

end

/-- A table is named alike, and what is no table has no name. -/
theorem named?_related {key : String} {R : Table → Table → Prop} {value value' : Value}
    (hkey : "name" ≠ key) (hR : ∀ a b, R a b → AgreeBut key a b) (h : TablesRelated R value value') :
    Alike (fun named named' => (named = none ∧ named' = none) ∨
      ∃ a b name, R a b ∧ named = some (a, name) ∧ named' = some (b, name))
      (named? value) (named? value') := by
  cases h with
  | @table a b h =>
    refine .bind_same ((hR a b h).textField_eq hkey) fun found _ => ?_
    cases found with
    | none => exact .ok (.inl ⟨rfl, rfl⟩)
    | some name => exact .ok (.inr ⟨a, b, name, h, rfl, rfl⟩)
  | other h =>
    have hnone : named? value = .ok none := by
      cases value with
      | table a => exact absurd rfl (h a)
      | _ => rfl
    rw [hnone]
    exact .ok (.inl ⟨rfl, rfl⟩)

variable {t : String}

/-- The same settings are read, but for the toolset. -/
theorem readConfiguration_retooled {entry entry' : Value}
    (h : TablesRelated (SettingsRetooled t) entry entry') (project : String) :
    Alike (fun settings settings' => settings' = settings.withToolset t)
      (readConfiguration project entry) (readConfiguration project entry') := by
  unfold readConfiguration
  refine (named?_related (by decide) (fun _ _ h => h.others) h).bind fun named named' hnamed => ?_
  rcases hnamed with ⟨rfl, rfl⟩ | ⟨a, b, name, hab, rfl, rfl⟩
  · exact .error _
  dsimp only
  have hstring {key : String} (hkey : key ≠ "toolset") := hab.others.stringField_eq hkey
  have htexts {key : String} (hkey : key ≠ "toolset") := hab.others.textsField_eq hkey
  refine .bind_same (hstring (by decide) _) fun label _ => ?_
  refine .bind_same rfl fun pic _ => ?_
  refine .bind_same (htexts (by decide) _) fun includeDirs _ => ?_
  refine .bind_same (htexts (by decide) _) fun defines _ => ?_
  refine .bind_same (htexts (by decide) _) fun libDirs _ => ?_
  refine .bind_same (htexts (by decide) _) fun links _ => ?_
  refine .bind_same (htexts (by decide) _) fun linkOptions _ => ?_
  refine .bind_same (hstring (by decide) _) fun outputDir _ => ?_
  refine .bind_same (hstring (by decide) _) fun dialect _ => ?_
  refine .bind_same (hstring (by decide) _) fun pchHeader _ => ?_
  -- The toolset is a string or null before, so that both are read, and read differently.
  obtain ⟨toolset, htoolset⟩ := exists_stringField_iff.mpr hab.before
  have htoolset' : stringField b "toolset" (configurationContext project name) = .ok (some t) := by
    unfold stringField
    rw [hab.after]
  rw [htoolset, htoolset']
  refine Alike.bind (R := fun _ toolset' => toolset' = some t) (.ok rfl) fun _ _ htoolset => ?_
  refine .bind_same (hstring (by decide) _) fun architecture _ => ?_
  refine .bind_same (hstring (by decide) _) fun system _ => ?_
  rw [htoolset, hab.others.answerField_eq (by decide), hab.others.answerField_eq (by decide),
    hab.others "symbols" (by decide)]
  exact .ok rfl

theorem configurationEntries_retooled {a b : Table} (h : FieldsRetooled t a b) :
    Alike (List.Forall₂ (TablesRelated (SettingsRetooled t))) (configurationEntries a)
      (configurationEntries b) := by
  have hsame {entries : List Value} (h : ∀ entry ∈ entries, ∃ s, entry = .string s) :
      List.Forall₂ (TablesRelated (SettingsRetooled t)) entries entries := by
    refine List.forall₂_same.mpr fun entry hentry => ?_
    obtain ⟨s, rfl⟩ := h entry hentry
    exact .other (by simp)
  obtain ⟨-, hitems⟩ := h
  unfold configurationEntries
  generalize a.lookup "configuration" = field at hitems
  generalize b.lookup "configuration" = field' at hitems
  cases hitems with
  | list h => exact .ok h
  | other h =>
    cases field with
    | none => exact .ok .nil
    | some value =>
      cases value with
      | list items => exact absurd rfl (h items)
      | string s =>
        refine .ok (hsame fun entry hentry => ?_)
        obtain ⟨c, -, rfl⟩ := List.mem_map.mp hentry
        exact ⟨_, rfl⟩
      | table fields =>
        refine .ok (hsame fun entry hentry => ?_)
        obtain ⟨field, -, rfl⟩ := List.mem_map.mp hentry
        exact ⟨_, rfl⟩
      | _ => exact .error _

theorem readConfigurations_retooled {entries entries' : List Value}
    (h : List.Forall₂ (TablesRelated (SettingsRetooled t)) entries entries') (p : ProjectId)
    (project : String) (s : Store) :
    Alike (fun made made' => made' = made.retool t) (readConfigurations p project entries s)
      (readConfigurations p project entries' (s.retool t)) :=
  (Store.unnoticed_retool t).readConfigurations (fun s => Store.retool_newConfiguration s t)
    (fun _ _ hentry => readConfiguration_retooled hentry project) h p s

/-- A project is read into the one store as into the other. -/
theorem readProject_retooled {entry entry' : Value}
    (h : TablesRelated (FieldsRetooled t) entry entry') (root : Path) (s : Store) :
    Alike (fun made made' => made'.1 = made.1.retool t ∧ made'.2.1 = made.2.1 ∧
        FieldsRetooled t made.2.2.1 made'.2.2.1 ∧ made'.2.2.2 = made.2.2.2)
      (readProject root entry s) (readProject root entry' (s.retool t)) := by
  unfold readProject
  refine (named?_related (by decide) (fun _ _ h => h.others) h).bind fun named named' hnamed => ?_
  rcases hnamed with ⟨rfl, rfl⟩ | ⟨a, b, name, hab, rfl, rfl⟩
  · exact .error _
  dsimp only
  refine .bind_same (hab.others.stringField_eq (by decide) _) fun base _ => ?_
  refine .bind_same (hab.others.stringField_eq (by decide) _) fun location _ => ?_
  refine .bind_same (hab.others.textField_eq (by decide)) fun label _ => ?_
  refine .bind_same (hab.others.textsField_eq (by decide) _) fun files _ => ?_
  rw [Store.retool_addProject]
  refine (configurationEntries_retooled hab).bind fun entries entries' hentries => ?_
  refine (readConfigurations_retooled hentries _ name _).bind fun made _ hmade => ?_
  subst hmade
  exact .ok ⟨rfl, rfl, hab, rfl⟩

theorem readProjects_retooled {entries entries' : List Value}
    (h : List.Forall₂ (TablesRelated (FieldsRetooled t)) entries entries') (root : Path) (s : Store)
    (done : List (ProjectId × List String)) :
    Alike (fun made made' => made'.1 = made.1.retool t ∧ made'.2 = made.2)
      (readProjects root entries s done) (readProjects root entries' (s.retool t) done) := by
  induction h generalizing s done with
  | nil => exact .ok ⟨rfl, rfl⟩
  | cons hentry _ ih =>
    refine (readProject_retooled hentry root s).bind fun made made' hmade => ?_
    obtain ⟨s₁, _, a, _⟩ := made
    obtain ⟨_, p, b, name⟩ := made'
    dsimp only at hmade
    obtain ⟨rfl, rfl, hab, rfl⟩ := hmade
    dsimp only
    -- Whether a name is taken is asked of projects alone.
    have hfind : findProject (s₁.retool t) (done.map (·.1)) name
        = findProject s₁ (done.map (·.1)) name := rfl
    rw [hfind]
    split
    · exact .error _
    · refine .bind_same (hab.others.textsField_eq (by decide) _) fun dependencies _ => ?_
      exact ih s₁ _

theorem projectEntries_retooled {a b : Table} (h : Retooled t a b) :
    Alike (List.Forall₂ (TablesRelated (FieldsRetooled t))) (projectEntries a)
      (projectEntries b) := by
  obtain ⟨-, hitems⟩ := h
  unfold projectEntries
  generalize a.lookup "project" = field at hitems
  generalize b.lookup "project" = field' at hitems
  cases hitems with
  | list h => exact .ok h
  | other h =>
    cases field with
    | none => exact .ok .nil
    | some value =>
      cases value with
      | list items => exact absurd rfl (h items)
      | _ => exact .error _

end Workspace

/-- The same workspace with every configuration asking for a toolset. -/
def Workspace.retool (w : Workspace) (t : String) : Workspace :=
  { w with store := w.store.retool t }

/-- **The documents describe the same workspace but for the toolsets, or are refused alike.** -/
theorem Workspace.ofValue_retooled {t : String} {a b : Table} (h : Retooled t a b) (root : Path)
    (defaultName : String) :
    Alike (fun w w' => w' = w.retool t) (ofValue root defaultName (.table a))
      (ofValue root defaultName (.table b)) := by
  unfold ofValue
  dsimp only
  refine .bind_same (h.others.textField_eq (by decide)) fun name _ => ?_
  refine ((projectEntries_retooled h).mapError ReadError.diagnosed).bind fun entries entries' hentries => ?_
  refine (readProjects_retooled hentries root .empty []).bind fun made made' hmade => ?_
  obtain ⟨s, _⟩ := made
  obtain ⟨_, pending⟩ := made'
  dsimp only at hmade
  obtain ⟨rfl, rfl⟩ := hmade
  refine (((Store.unnoticed_retool t).addAllDependencies _ pending s).mapError
    ReadError.diagnosed).bind fun made _ hmade => ?_
  subst hmade
  exact .ok rfl

end CMakeGen
