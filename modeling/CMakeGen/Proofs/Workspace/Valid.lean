import CMakeGen.Proofs.Workspace.Refusal

/-!
# What makes a document a workspace

`Valid` says of a document, field by field, what makes it a workspace, without a reader and without
an order in which things are checked. A text can be made of most values, so what it is made of is only
asked to be such an item (`Item`), and keys that nothing is asked of are not mentioned.

The readers of fields and of configurations succeed on just what is valid, where items are values that
can be written (`Writable`). The reader of a list of configurations carries a store along, of which only
the names matter that are taken already (`exists_readConfigurations_iff`).
-/

namespace CMakeGen

namespace Workspace

open Store

/-! ## Valid documents -/

/-- The field is not there, or its value is such a one. -/
def Optional (P : Value → Prop) (table : Table) (key : String) : Prop :=
  ∀ value, table.lookup key = some value → P value

def IsString (value : Value) : Prop := value = .null ∨ ∃ s, value = .string s

def IsPic (value : Value) : Prop :=
  value = .null ∨ ∃ label, value = .string label ∧
    (label = "" ∨ ∃ mode ∈ [Pic.unset, .on, .off],
      Text.lowercase mode.name = Text.lowercase label)

def HasText (table : Table) (key text : String) : Prop :=
  ∃ value, table.lookup key = some value ∧ value.text = .ok text

/-- What the configurations of a project may be called. -/
def FitNames (names : List String) : Prop :=
  names.Nodup ∧ ∀ name ∈ names, name ≠ "" ∧ ∀ x ∈ name.toList, x.isAlphanum = true ∨ x = '_'

section

variable (Item : Value → Prop)

def IsListOf (value : Value) : Prop := ∃ items, value = .list items ∧ ∀ item ∈ items, Item item

structure ValidSettings (table : Table) : Prop where
  pic : Optional IsPic table "pic"
  lists : ∀ key ∈ ["include_dirs", "defines", "lib_dirs", "links", "link_options"],
    Optional (IsListOf Item) table key
  strings : ∀ key ∈ ["output_dir", "dialect", "pch_header", "toolset", "architecture", "system"],
    Optional IsString table key

def ValidConfiguration (entry : Value) (name : String) : Prop :=
  ∃ table, entry = .table table ∧ HasText table "name" name ∧ ValidSettings Item table

/-- An empty text and an empty table count as lists without entries. -/
def ValidConfigurations (value : Value) : Prop :=
  value = .string "" ∨ value = .table [] ∨
    ∃ entries names, value = .list entries ∧
      List.Forall₂ (ValidConfiguration Item) entries names ∧ FitNames names

structure ValidFields (table : Table) : Prop where
  strings : ∀ key ∈ ["base_dir", "location"], Optional IsString table key
  kind : Optional Item table "kind"
  files : Optional (IsListOf Item) table "files"
  configurations : Optional (ValidConfigurations Item) table "configuration"

def ValidProject (entry : Value) (name : String) : Prop :=
  ∃ table, entry = .table table ∧ HasText table "name" name ∧ ValidFields Item table ∧
    Optional (IsListOf Item) table "dependencies"

/-- Whatever an entry depends on is called by one of the names. -/
def DependsOn (names : List String) (entry : Value) : Prop :=
  ∀ fields items, entry = .table fields → fields.lookup "dependencies" = some (.list items) →
    ∀ item ∈ items, ∃ name ∈ names, item.text = .ok name

/-- What makes a table with these projects in it a workspace. -/
structure ValidTable (table : Table) (entries : List Value) (names : List String) : Prop where
  workspace : Optional Item table "workspace"
  listed : (table.lookup "project").getD (.list []) = .list entries
  projects : List.Forall₂ (ValidProject Item) entries names
  distinct : names.Nodup
  dependencies : ∀ entry ∈ entries, DependsOn names entry

/-- What makes a document a workspace, if texts are made of such items. -/
def Valid (document : Value) : Prop :=
  ∃ table entries names, document = .table table ∧ ValidTable Item table entries names

end

/-- What a text can be made of. -/
abbrev Writable (value : Value) : Prop := ¬ value.Unwritable

/-! ## Fields -/

section

variable {table : Table} {key context : String}

theorem textField_eq_some_iff {text : String} :
    textField table key = .ok (some text) ↔ HasText table key text := by
  rw [textField, HasText, mapError_eq_ok_iff]
  cases table.lookup key with
  | none =>
    constructor
    · intro h
      cases h
    · rintro ⟨_, h, -⟩
      cases h
  | some value =>
    constructor
    · intro h
      obtain ⟨_, htext, h⟩ := bind_eq_ok_iff.mp h
      cases h
      exact ⟨value, rfl, htext⟩
    · rintro ⟨_, h, htext⟩
      cases h
      exact bind_eq_ok_iff.mpr ⟨text, htext, rfl⟩

theorem exists_textField_iff :
    (∃ text, textField table key = .ok text) ↔ Optional Writable table key := by
  rw [textField, Optional, exists_mapError_eq_ok_iff]
  cases table.lookup key with
  | none => exact iff_of_true ⟨none, rfl⟩ fun _ h => by cases h
  | some value =>
    have hvalue : (∃ text, Option.mapM Value.text (some value) = .ok text) ↔
        ∃ text, value.text = .ok text := by
      constructor
      · rintro ⟨_, h⟩
        obtain ⟨text, htext, -⟩ := bind_eq_ok_iff.mp h
        exact ⟨text, htext⟩
      · rintro ⟨text, htext⟩
        exact ⟨some text, bind_eq_ok_iff.mpr ⟨text, htext, rfl⟩⟩
    simp only [hvalue, Value.exists_text_iff, Option.some.injEq, forall_eq']

theorem stringField_eq_ok_iff {text : Option String} :
    stringField table key context = .ok text ↔
      ((table.lookup key).getD .null) = (text.map Value.string).getD .null := by
  rw [stringField]
  cases table.lookup key with
  | none => cases text <;> simp
  | some value =>
    cases value with
    | null => cases text <;> simp
    | string s => cases text <;> simp
    | _ =>
      refine iff_of_false (fun h => ?_) (by cases text <;> simp)
      obtain ⟨_, -, h⟩ := bind_eq_ok_iff.mp h
      cases h

theorem exists_stringField_iff :
    (∃ text, stringField table key context = .ok text) ↔ Optional IsString table key := by
  simp only [stringField_eq_ok_iff, Optional, IsString]
  cases table.lookup key with
  | none => exact iff_of_true ⟨none, rfl⟩ fun _ h => by cases h
  | some value =>
    simp only [Option.getD_some, Option.some.injEq, forall_eq']
    constructor
    · rintro ⟨_ | s, h⟩
      · exact .inl h
      · exact .inr ⟨s, h⟩
    · rintro (h | ⟨s, h⟩)
      · exact ⟨none, h⟩
      · exact ⟨some s, h⟩

theorem textsField_eq_ok_iff {texts : List String} :
    textsField table key context = .ok texts ↔
      ∃ items, (table.lookup key).getD (.list []) = .list items ∧
        List.Forall₂ (fun item text => item.text = .ok text) items texts := by
  rw [textsField]
  cases table.lookup key with
  | none => simp [List.forall₂_nil_left_iff, eq_comm]
  | some value =>
    cases value with
    | list items => simp [mapError_eq_ok_iff, mapM_eq_ok_iff]
    | _ => simp

theorem exists_textsField_iff :
    (∃ texts, textsField table key context = .ok texts) ↔
      Optional (IsListOf Writable) table key := by
  rw [textsField, Optional]
  cases table.lookup key with
  | none => exact iff_of_true ⟨[], rfl⟩ fun _ h => by cases h
  | some value =>
    simp only [Option.some.injEq, forall_eq']
    cases value with
    | list items =>
      simp only [exists_mapError_eq_ok_iff, exists_mapM_eq_ok_iff, Value.exists_text_iff]
      constructor
      · intro h
        exact ⟨items, rfl, h⟩
      · rintro ⟨_, ⟨⟩, h⟩
        exact h
    | _ =>
      refine iff_of_false ?_ ?_
      · rintro ⟨_, h⟩
        cases h
      · rintro ⟨_, h, -⟩
        cases h

theorem exists_ofLabel_iff {label : String} :
    (∃ mode, Pic.ofLabel (some label) = .ok mode) ↔
      label = "" ∨ ∃ mode ∈ [Pic.unset, .on, .off],
        Text.lowercase mode.name = Text.lowercase label := by
  rw [Pic.ofLabel]
  by_cases hempty : label = ""
  · rw [if_pos hempty]
    exact iff_of_true ⟨_, rfl⟩ (.inl hempty)
  · rw [if_neg hempty, or_iff_right hempty]
    cases hfind : [Pic.unset, .on, .off].find? fun mode =>
        Text.lowercase mode.name = Text.lowercase label with
    | some mode =>
      exact iff_of_true ⟨mode, rfl⟩
        ⟨mode, List.mem_of_find?_eq_some hfind, by simpa using List.find?_some hfind⟩
    | none =>
      refine iff_of_false ?_ ?_
      · rintro ⟨_, h⟩
        cases h
      · rintro ⟨mode, hmem, hmode⟩
        exact absurd hmode (by simpa using List.find?_eq_none.mp hfind mode hmem)

/-- The mode is read from a field that was found to hold a string. -/
theorem exists_readPic_iff {pic : Option String} :
    (∃ label, stringField table "pic" context = .ok label ∧
      ∃ mode, readPic pic ((label.map Value.string).getD .null) = .ok mode) ↔
      Optional IsPic table "pic" := by
  have hread (label : Option String) :
      (∃ mode, readPic pic ((label.map Value.string).getD .null) = .ok mode) ↔
        IsPic ((label.map Value.string).getD .null) := by
    cases label with
    | none => exact iff_of_true ⟨_, rfl⟩ (.inl rfl)
    | some label =>
      simp only [Option.map_some, Option.getD_some, readPic, exists_mapError_eq_ok_iff,
        exists_ofLabel_iff, IsPic, reduceCtorEq, Value.string.injEq, false_or, exists_eq_left']
  simp only [hread, stringField_eq_ok_iff, Optional]
  cases table.lookup "pic" with
  | none => exact iff_of_true ⟨none, rfl, .inl rfl⟩ fun _ h => by cases h
  | some value =>
    simp only [Option.getD_some, Option.some.injEq, forall_eq']
    constructor
    · rintro ⟨label, rfl, h⟩
      exact h
    · rintro (rfl | ⟨label, rfl, h⟩)
      · exact ⟨none, rfl, .inl rfl⟩
      · exact ⟨some label, rfl, .inr ⟨label, rfl, h⟩⟩

end

/-! ## Configurations -/

/-- An entry describes a configuration iff its fields are valid. -/
theorem exists_readConfiguration_iff {project name : String} {entry : Value} :
    (∃ settings, readConfiguration project entry = .ok settings ∧ settings.name = name) ↔
      ValidConfiguration Writable entry name := by
  constructor
  · rintro ⟨settings, hread, hname⟩
    obtain ⟨_ | ⟨table, found⟩, hnamed, h⟩ := bind_eq_ok_iff.mp hread
    · cases h
    obtain ⟨rfl, htext⟩ := named?_eq_ok_iff.mp hnamed
    simp only [bind_eq_ok_iff] at h
    obtain ⟨label, hlabel, mode, hmode, includeDirs, hincludeDirs, defines, hdefines, libDirs,
      hlibDirs, links, hlinks, linkOptions, hlinkOptions, outputDir, houtputDir, dialect, hdialect,
      pchHeader, hpchHeader, toolset, htoolset, architecture, harchitecture, system, hsystem, h⟩ := h
    cases h
    obtain rfl : found = name := hname
    refine ⟨table, rfl, textField_eq_some_iff.mp htext, ?_, ?_, ?_⟩
    · exact exists_readPic_iff.mp ⟨label, hlabel, mode, hmode⟩
    · simp only [List.forall_mem_cons]
      exact ⟨exists_textsField_iff.mp ⟨_, hincludeDirs⟩, exists_textsField_iff.mp ⟨_, hdefines⟩,
        exists_textsField_iff.mp ⟨_, hlibDirs⟩, exists_textsField_iff.mp ⟨_, hlinks⟩,
        exists_textsField_iff.mp ⟨_, hlinkOptions⟩, fun _ hmem => absurd hmem List.not_mem_nil⟩
    · simp only [List.forall_mem_cons]
      exact ⟨exists_stringField_iff.mp ⟨_, houtputDir⟩, exists_stringField_iff.mp ⟨_, hdialect⟩,
        exists_stringField_iff.mp ⟨_, hpchHeader⟩, exists_stringField_iff.mp ⟨_, htoolset⟩,
        exists_stringField_iff.mp ⟨_, harchitecture⟩, exists_stringField_iff.mp ⟨_, hsystem⟩,
        fun _ hmem => absurd hmem List.not_mem_nil⟩
  · rintro ⟨table, rfl, htext, hpic, hlists, hstrings⟩
    have hlist (key : String) (hkey : key ∈ _) (context : String) :
        ∃ texts, textsField table key context = .ok texts :=
      exists_textsField_iff.mpr (hlists key hkey)
    have hstring (key : String) (hkey : key ∈ _) (context : String) :
        ∃ text, stringField table key context = .ok text :=
      exists_stringField_iff.mpr (hstrings key hkey)
    have hnamed := named?_eq_ok_iff.mpr ⟨rfl, textField_eq_some_iff.mpr htext⟩
    refine exists_bind_eq_ok ⟨_, hnamed⟩ fun named hsame => ?_
    obtain rfl : named = some (table, name) := Except.ok.inj (hsame.symm.trans hnamed)
    obtain ⟨label, hlabel, hmode⟩ := exists_readPic_iff.mpr hpic
    refine exists_bind_eq_ok ⟨label, hlabel⟩ fun other hsame => ?_
    obtain rfl : other = label := Except.ok.inj (hsame.symm.trans hlabel)
    refine exists_bind_eq_ok hmode fun _ _ => ?_
    refine exists_bind_eq_ok (hlist "include_dirs" (by decide) _) fun _ _ => ?_
    refine exists_bind_eq_ok (hlist "defines" (by decide) _) fun _ _ => ?_
    refine exists_bind_eq_ok (hlist "lib_dirs" (by decide) _) fun _ _ => ?_
    refine exists_bind_eq_ok (hlist "links" (by decide) _) fun _ _ => ?_
    refine exists_bind_eq_ok (hlist "link_options" (by decide) _) fun _ _ => ?_
    refine exists_bind_eq_ok (hstring "output_dir" (by decide) _) fun _ _ => ?_
    refine exists_bind_eq_ok (hstring "dialect" (by decide) _) fun _ _ => ?_
    refine exists_bind_eq_ok (hstring "pch_header" (by decide) _) fun _ _ => ?_
    refine exists_bind_eq_ok (hstring "toolset" (by decide) _) fun _ _ => ?_
    refine exists_bind_eq_ok (hstring "architecture" (by decide) _) fun _ _ => ?_
    exact exists_bind_eq_ok (hstring "system" (by decide) _) fun _ _ => ⟨_, rfl, rfl⟩

/-- Entries add their configurations to a project iff each of them describes one, of a name that is
fit for a guard and new in the project. -/
theorem exists_readConfigurations_iff {s : Store} {p : ProjectId} {project : String}
    {entries : List Value} (hs : s.Coherent) (hp : p.index < s.projects.length) :
    (∃ s', readConfigurations p project entries s = .ok s') ↔
      ∃ names, List.Forall₂ (ValidConfiguration Writable) entries names ∧ names.Nodup ∧
        ∀ name ∈ names, isConfigurationName name = true ∧
          s.findConfiguration (s.project p) name = none := by
  induction entries generalizing s with
  | nil => exact iff_of_true ⟨s, rfl⟩ ⟨[], .nil, List.nodup_nil, fun _ h => by cases h⟩
  | cons entry rest ih =>
    have hp' (settings : Configuration) :
        p.index < (s.withConfiguration p settings).projects.length := by
      rwa [length_projects_withConfiguration]
    have htaken {settings : Configuration} {name : String} :
        (s.withConfiguration p settings).findConfiguration
            ((s.withConfiguration p settings).project p) name = none ↔
          s.findConfiguration (s.project p) name = none ∧ settings.name ≠ name :=
      findConfiguration_withConfiguration_eq_none_iff hs.wellNamed hp
    constructor
    · rintro ⟨s', h⟩
      obtain ⟨settings, hsettings, hname, hnew, h⟩ := (readConfigurations_cons_eq_ok_iff hs).mp h
      obtain ⟨names, hnames, hnodup, hfree⟩ :=
        (ih (hs.withConfiguration hname hnew) (hp' settings)).mp ⟨s', h⟩
      have hentry := exists_readConfiguration_iff.mp ⟨settings, hsettings, rfl⟩
      refine ⟨settings.name :: names, .cons hentry hnames, List.nodup_cons.mpr ⟨?_, hnodup⟩,
        List.forall_mem_cons.mpr ⟨⟨hname, hnew⟩, fun name hmem => ?_⟩⟩
      · intro hmem
        exact (htaken.mp (hfree _ hmem).2).2 rfl
      · exact ⟨(hfree name hmem).1, (htaken.mp (hfree name hmem).2).1⟩
    · rintro ⟨_, _ | ⟨hentry, hnames⟩, hnodup, hfree⟩
      obtain ⟨settings, hsettings, rfl⟩ := exists_readConfiguration_iff.mpr hentry
      obtain ⟨hother, hnodup⟩ := List.nodup_cons.mp hnodup
      obtain ⟨⟨hname, hnew⟩, hfree⟩ := List.forall_mem_cons.mp hfree
      obtain ⟨s', h⟩ := (ih (hs.withConfiguration hname hnew) (hp' settings)).mpr
        ⟨_, hnames, hnodup, fun name hmem => ⟨(hfree name hmem).1,
          htaken.mpr ⟨(hfree name hmem).2, fun heq => hother (heq ▸ hmem)⟩⟩⟩
      exact ⟨s', (readConfigurations_cons_eq_ok_iff hs).mpr ⟨settings, hsettings, hname, hnew, h⟩⟩

/-- No text is a configuration, so a list of texts is one of configurations iff it is empty. -/
theorem exists_forall₂_map_string_iff {α : Type} {keys : List α} {f : α → String} :
    (∃ names, List.Forall₂ (ValidConfiguration Writable) (keys.map fun key => .string (f key))
      names ∧ FitNames names) ↔ keys = [] := by
  cases keys with
  | nil => exact iff_of_true ⟨[], .nil, List.nodup_nil, fun _ h => by cases h⟩ rfl
  | cons key rest =>
    refine iff_of_false ?_ (List.cons_ne_nil key rest)
    rintro ⟨_, _ | ⟨⟨_, h, -⟩, -⟩, -⟩
    cases h

/-- The configurations of a project that has none yet. -/
theorem exists_configurations_iff {s : Store} {p : ProjectId} {project : String} {table : Table}
    (hs : s.Coherent) (hp : p.index < s.projects.length)
    (hnone : (s.project p).configurations = []) :
    (∃ entries, configurationEntries table = .ok entries ∧
      ∃ s', readConfigurations p project entries s = .ok s') ↔
      Optional (ValidConfigurations Writable) table "configuration" := by
  have hfree (name : String) : s.findConfiguration (s.project p) name = none := by
    rw [findConfiguration_eq_none_iff, hnone]
    exact fun _ h => by cases h
  have hread (entries : List Value) :
      (∃ s', readConfigurations p project entries s = .ok s') ↔
        ∃ names, List.Forall₂ (ValidConfiguration Writable) entries names ∧ FitNames names := by
    simp only [exists_readConfigurations_iff hs hp, hfree, and_true, isConfigurationName_iff,
      FitNames]
  simp only [hread, configurationEntries, Optional, ValidConfigurations]
  cases table.lookup "configuration" with
  | none =>
    exact iff_of_true ⟨[], rfl, [], .nil, List.nodup_nil, fun _ h => by cases h⟩
      fun _ h => by cases h
  | some value =>
    simp only [Option.some.injEq, forall_eq']
    cases value with
    | list items => simp
    | string text =>
      simp only [Except.ok.injEq, exists_eq_left', exists_forall₂_map_string_iff]
      simp
    | table entries =>
      simp only [Except.ok.injEq, exists_eq_left', exists_forall₂_map_string_iff]
      simp
    | _ => simp

end Workspace

end CMakeGen
