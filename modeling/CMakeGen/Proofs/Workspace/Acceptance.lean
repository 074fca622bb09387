import CMakeGen.Proofs.Workspace.Valid

/-!
# Which documents are read as workspaces

**A document is read iff it is valid** (`exists_ofValue_iff`), where texts are made of values that can be
written. The two passes are taken in turn. The first one succeeds iff each entry is a valid project and
no name comes twice; the second one iff the names that the first one left with the projects are names of
projects. Reading changes no name, so both speak of the names that are in the document.

A value that cannot be written makes a difference even where nothing depends on the text
(`not_exists_ofValue_countless`).
-/

namespace CMakeGen

namespace Workspace

open Store

/-! ## Projects -/

section

variable {s s' : Store} {root : Path} {entry : Value} {rest entries : List Value}
  {done pending : List (ProjectId × List String)}

theorem exists_readProject_iff {table : Table} {name : String} (hs : s.Coherent) :
    (∃ s' p, readProject root entry s = .ok (s', p, table, name)) ↔
      entry = .table table ∧ HasText table "name" name ∧ ValidFields Writable table := by
  have hconfigurations {project : Project} (hnone : project.configurations = []) :
      (∃ listed, configurationEntries table = .ok listed ∧ ∃ s',
        readConfigurations ⟨s.projects.length⟩ name listed (s.addProject project).1 = .ok s') ↔
        Optional (ValidConfigurations Writable) table "configuration" := by
    refine exists_configurations_iff (hs.addProject hnone) ?_ ?_
    · simp
    · rw [project_addProject, if_pos rfl, hnone]
  constructor
  · rintro ⟨s', p, hread⟩
    obtain ⟨_ | ⟨fields, found⟩, hnamed, h⟩ := bind_eq_ok_iff.mp hread
    · cases h
    obtain ⟨rfl, htext⟩ := named?_eq_ok_iff.mp hnamed
    obtain ⟨base, hbase, h⟩ := bind_eq_ok_iff.mp h
    obtain ⟨location, hlocation, h⟩ := bind_eq_ok_iff.mp h
    obtain ⟨label, hlabel, h⟩ := bind_eq_ok_iff.mp h
    obtain ⟨files, hfiles, h⟩ := bind_eq_ok_iff.mp h
    obtain ⟨listed, hlisted, h⟩ := bind_eq_ok_iff.mp h
    obtain ⟨s₂, hs₂, h⟩ := bind_eq_ok_iff.mp h
    cases h
    refine ⟨rfl, textField_eq_some_iff.mp htext, ?_, ?_, ?_, ?_⟩
    · simp only [List.forall_mem_cons]
      exact ⟨exists_stringField_iff.mp ⟨_, hbase⟩, exists_stringField_iff.mp ⟨_, hlocation⟩,
        fun _ hmem => absurd hmem List.not_mem_nil⟩
    · exact exists_textField_iff.mp ⟨_, hlabel⟩
    · exact exists_textsField_iff.mp ⟨_, hfiles⟩
    · exact (hconfigurations rfl).mp ⟨listed, hlisted, _, hs₂⟩
  · rintro ⟨rfl, htext, hstrings, hkind, hfiles, hvalid⟩
    have hstring (key : String) (hkey : key ∈ _) (context : String) :
        ∃ text, stringField table key context = .ok text :=
      exists_stringField_iff.mpr (hstrings key hkey)
    have hnamed := named?_eq_ok_iff.mpr ⟨rfl, textField_eq_some_iff.mpr htext⟩
    suffices h : ∃ result, readProject root (.table table) s = .ok result ∧
        result.2.2 = (table, name) by
      obtain ⟨⟨s', p, _, _⟩, h, hresult⟩ := h
      cases hresult
      exact ⟨s', p, h⟩
    refine exists_bind_eq_ok ⟨_, hnamed⟩ fun named hsame => ?_
    obtain rfl : named = some (table, name) := Except.ok.inj (hsame.symm.trans hnamed)
    refine exists_bind_eq_ok (hstring "base_dir" (by decide) _) fun base _ => ?_
    refine exists_bind_eq_ok (hstring "location" (by decide) _) fun location _ => ?_
    refine exists_bind_eq_ok (exists_textField_iff.mpr hkind) fun label _ => ?_
    refine exists_bind_eq_ok (exists_textsField_iff.mpr hfiles) fun files _ => ?_
    -- What the project is otherwise does not matter to its configurations.
    have hread {project : Project} (hnone : project.configurations = []) {listed : List Value}
        (hlisted : configurationEntries table = .ok listed) :
        ∃ s', readConfigurations ⟨s.projects.length⟩ name listed (s.addProject project).1
          = .ok s' := by
      obtain ⟨other, hother, hs'⟩ := (hconfigurations hnone).mpr hvalid
      rwa [Except.ok.inj (hlisted.symm.trans hother)]
    have hnone : (default : Project).configurations = [] := rfl
    obtain ⟨listed, hlisted, -⟩ := (hconfigurations hnone).mpr hvalid
    refine exists_bind_eq_ok ⟨listed, hlisted⟩ fun _ hlisted => ?_
    exact exists_bind_eq_ok (hread (by rfl) hlisted) fun _ _ => ⟨_, rfl, rfl⟩

theorem exists_findProject_iff {projects : List ProjectId} {name : String} :
    (∃ p, findProject s projects name = some p) ↔
      name ∈ projects.map fun p => (s.project p).name := by
  rw [← Option.isSome_iff_exists, findProject, List.find?_isSome, List.mem_map]
  simp only [decide_eq_true_iff]

/-- Entries are read as projects iff each of them describes one, of a new name. -/
theorem exists_readProjects_iff (hs : s.Coherent)
    (hdone : ∀ found ∈ done, found.1.index < s.projects.length) :
    (∃ s' pending, readProjects root entries s done = .ok (s', pending)) ↔
      ∃ names, List.Forall₂ (ValidProject Writable) entries names ∧ names.Nodup ∧
        ∀ name ∈ names, findProject s (done.map (·.1)) name = none := by
  induction entries generalizing s done with
  | nil => exact iff_of_true ⟨s, done, rfl⟩ ⟨[], .nil, List.nodup_nil, fun _ h => by cases h⟩
  | cons entry rest ih =>
    -- What a project adds to the names that are taken is its own.
    have hstep {s₂ : Store} {p : ProjectId} {table : Table} {name : String}
        (dependencies : List String) (hread : readProject root entry s = .ok (s₂, p, table, name)) :
        (∀ found ∈ done ++ [(p, dependencies)], found.1.index < s₂.projects.length) ∧
        (∀ other, findProject s₂ (done.map (·.1)) other = none ↔
          findProject s (done.map (·.1)) other = none) ∧
        ∀ other, findProject s₂ ((done ++ [(p, dependencies)]).map (·.1)) other = none ↔
          findProject s (done.map (·.1)) other = none ∧ name ≠ other := by
      obtain ⟨⟨-, -, hname, -⟩, hindex, hlength, -, hagree⟩ := readProject_describes hread
      have hold (other : String) : findProject s₂ (done.map (·.1)) other = none ↔
          findProject s (done.map (·.1)) other = none := by
        simp only [findProject_eq_none_iff, List.forall_mem_map]
        refine forall₂_congr fun found hfound => ?_
        rw [hagree.project _ (hdone found hfound)]
      refine ⟨fun found hfound => ?_, hold, fun other => ?_⟩
      · rcases List.mem_append.mp hfound with hfound | hfound
        · exact Nat.lt_of_lt_of_le (hdone found hfound) (by omega)
        · obtain rfl := List.mem_singleton.mp hfound
          show p.index < _
          omega
      · rw [← hold, findProject_eq_none_iff, findProject_eq_none_iff, List.map_append,
          List.forall_mem_append, List.map_singleton, List.forall_mem_singleton, hname]
    constructor
    · rintro ⟨s', pending, h⟩
      obtain ⟨s₂, p, table, name, dependencies, hread, hnew, hdependencies, h⟩ :=
        readProjects_cons_eq_ok_iff.mp h
      obtain ⟨hdone₂, hold, htaken⟩ := hstep dependencies hread
      obtain ⟨names, hnames, hnodup, hfree⟩ :=
        (ih (readProject_coherent hs hread) hdone₂).mp ⟨s', pending, h⟩
      obtain ⟨rfl, htext, hfields⟩ := (exists_readProject_iff hs).mp ⟨_, _, hread⟩
      have hentry : ValidProject Writable (.table table) name :=
        ⟨table, rfl, htext, hfields, exists_textsField_iff.mp ⟨_, hdependencies⟩⟩
      refine ⟨name :: names, .cons hentry hnames, List.nodup_cons.mpr ⟨?_, hnodup⟩,
        List.forall_mem_cons.mpr ⟨(hold name).mp hnew, fun other hmem => ?_⟩⟩
      · intro hmem
        exact ((htaken name).mp (hfree name hmem)).2 rfl
      · exact ((htaken other).mp (hfree other hmem)).1
    · rintro ⟨_, hprojects, hnodup, hfree⟩
      obtain ⟨name, names, ⟨table, rfl, htext, hfields, hlist⟩, hnames, rfl⟩ :=
        List.forall₂_cons_left_iff.mp hprojects
      obtain ⟨s₂, p, hread⟩ : ∃ s₂ p, readProject root (.table table) s = .ok (s₂, p, table, name) :=
        (exists_readProject_iff hs).mpr ⟨rfl, htext, hfields⟩
      obtain ⟨dependencies, hdependencies⟩ :
          ∃ texts, textsField table "dependencies" (projectContext name) = .ok texts :=
        exists_textsField_iff.mpr hlist
      obtain ⟨hdone₂, hold, htaken⟩ := hstep dependencies hread
      obtain ⟨hother, hnodup⟩ := List.nodup_cons.mp hnodup
      obtain ⟨hnew, hfree⟩ := List.forall_mem_cons.mp hfree
      obtain ⟨s', pending, h⟩ := (ih (readProject_coherent hs hread) hdone₂).mpr
        ⟨_, hnames, hnodup, fun other hmem =>
          (htaken other).mpr ⟨hfree other hmem, fun heq => hother (heq ▸ hmem)⟩⟩
      exact ⟨s', pending, readProjects_cons_eq_ok_iff.mpr ⟨s₂, p, table, name, dependencies, hread,
        (hold name).mpr hnew, hdependencies, h⟩⟩

/-! ## Dependencies -/

theorem name_of_addDependencies {projects : List ProjectId} {p : ProjectId} {names : List String}
    (h : addDependencies projects p names s = .ok s') (q : ProjectId) :
    (s'.project q).name = (s.project q).name := by
  induction names generalizing s with
  | nil => rw [Except.ok.inj h]
  | cons name rest ih =>
    rw [addDependencies] at h
    split at h
    · cases h
    · rw [ih h, project_addDependency]
      split <;> rfl

theorem exists_addDependencies_iff {projects : List ProjectId} {p : ProjectId}
    {names : List String} :
    (∃ s', addDependencies projects p names s = .ok s') ↔
      ∀ name ∈ names, ∃ d, findProject s projects name = some d := by
  induction names generalizing s with
  | nil => exact iff_of_true ⟨s, rfl⟩ fun _ h => by cases h
  | cons name rest ih =>
    rw [addDependencies, List.forall_mem_cons]
    cases hfind : findProject s projects name with
    | none =>
      refine iff_of_false ?_ ?_
      · rintro ⟨_, h⟩
        cases h
      · rintro ⟨⟨_, h⟩, -⟩
        cases h
    | some d =>
      have hnames (q : ProjectId) : ((s.addDependency p d).project q).name = (s.project q).name := by
        rw [project_addDependency]
        split <;> rfl
      simp only [ih, findProject_congr hnames, Option.some.injEq, exists_eq', true_and]

theorem exists_addAllDependencies_iff {projects : List ProjectId} :
    (∃ s', addAllDependencies projects pending s = .ok s') ↔
      ∀ found ∈ pending, ∀ name ∈ found.2, ∃ d, findProject s projects name = some d := by
  induction pending generalizing s with
  | nil => exact iff_of_true ⟨s, rfl⟩ fun _ h => by cases h
  | cons found rest ih =>
    rw [List.forall_mem_cons, ← exists_addDependencies_iff (p := found.1)]
    constructor
    · rintro ⟨s', h⟩
      obtain ⟨s₂, hadd, h⟩ := bind_eq_ok_iff.mp h
      have hrest := ih.mp ⟨s', h⟩
      simp only [findProject_congr (name_of_addDependencies hadd)] at hrest
      exact ⟨⟨s₂, hadd⟩, hrest⟩
    · rintro ⟨⟨s₂, hadd⟩, hrest⟩
      simp only [← findProject_congr (name_of_addDependencies hadd)] at hrest
      obtain ⟨s', h⟩ := ih.mpr hrest
      exact ⟨s', bind_eq_ok_iff.mpr ⟨s₂, hadd, h⟩⟩

theorem forall_mem_iff_of_forall₂ {α β : Type} {R : α → β → Prop} {P : α → Prop} {Q : β → Prop}
    (hiff : ∀ a b, R a b → (P a ↔ Q b)) {as : List α} {bs : List β} (h : List.Forall₂ R as bs) :
    (∀ a ∈ as, P a) ↔ ∀ b ∈ bs, Q b := by
  induction h with
  | nil => exact iff_of_true (fun _ h => by cases h) fun _ h => by cases h
  | cons hab _ ih => rw [List.forall_mem_cons, List.forall_mem_cons, ih, hiff _ _ hab]

/-- Between the passes, the names of the dependencies of an entry are with its project. -/
theorem Pending.dependsOn_iff {found : ProjectId × List String}
    (h : Pending s root entry found) (names : List String) :
    DependsOn names entry ↔ ∀ name ∈ found.2, name ∈ names := by
  obtain ⟨table, rfl, -, hdependencies⟩ := h.described
  obtain ⟨items, hitems, htexts⟩ := textsField_eq_ok_iff.mp hdependencies
  have hnamed : ∀ (item : Value) text, item.text = .ok text →
      ((∃ name ∈ names, item.text = .ok name) ↔ text ∈ names) := by
    intro item text htext
    simp only [htext, Except.ok.injEq, exists_eq_right']
  rw [← forall_mem_iff_of_forall₂ hnamed htexts, DependsOn]
  cases hlookup : table.lookup "dependencies" with
  | none =>
    rw [hlookup] at hitems
    cases hitems
    refine iff_of_true ?_ fun _ h => by cases h
    rintro fields others ⟨⟩ hother
    rw [hlookup] at hother
    cases hother
  | some value =>
    obtain rfl : value = .list items := by rwa [hlookup] at hitems
    constructor
    · intro hdepends
      exact hdepends table items rfl hlookup
    · rintro hall fields others ⟨⟩ hother
      rw [hlookup] at hother
      cases hother
      exact hall

theorem names_eq_of_pending {names : List String}
    (hprojects : List.Forall₂ (ValidProject Writable) entries names)
    (hpending : List.Forall₂ (Pending s root) entries pending) :
    names = pending.map fun found => (s.project found.1).name := by
  induction hpending generalizing names with
  | nil => exact List.forall₂_nil_left_iff.mp hprojects
  | cons hentry _ ih =>
    obtain ⟨name, names, ⟨table, rfl, htext, -⟩, hrest, rfl⟩ :=
      List.forall₂_cons_left_iff.mp hprojects
    obtain ⟨_, ⟨⟩, hdescribed, -⟩ := hentry.described
    have hname := (textField_eq_some_iff.mpr htext).symm.trans hdescribed.name
    rw [List.map_cons, ← ih hrest, Option.some.inj (Except.ok.inj hname)]

/-! ## Documents -/

/-- **A document is read as a workspace iff it is valid.** -/
theorem exists_ofValue_iff (root : Path) (defaultName : String) (document : Value) :
    (∃ w, ofValue root defaultName document = .ok w) ↔ Valid Writable document := by
  cases document with
  | table table =>
    have hnone : ∀ found ∈ ([] : List (ProjectId × List String)),
        found.1.index < Store.empty.projects.length := fun _ h => by cases h
    -- The names that the second pass looks up are those that the first one has read.
    have hpasses {entries : List Value} {names : List String} {s : Store}
        {pending : List (ProjectId × List String)}
        (hprojects : List.Forall₂ (ValidProject Writable) entries names)
        (hread : readProjects root entries .empty [] = .ok (s, pending)) :
        (∃ s', addAllDependencies (pending.map (·.1)) pending s = .ok s') ↔
          ∀ entry ∈ entries, DependsOn names entry := by
      obtain ⟨⟨new, hnew, hpending⟩, -, -, -⟩ :=
        readProjects_pending .empty hnone List.nodup_nil hread
      obtain rfl : pending = new := hnew
      rw [forall_mem_iff_of_forall₂ (fun _ _ h => h.dependsOn_iff names) hpending,
        exists_addAllDependencies_iff]
      simp only [exists_findProject_iff, List.map_map, names_eq_of_pending hprojects hpending]
      rfl
    constructor
    · rintro ⟨w, h⟩
      obtain ⟨name, hname, h⟩ := bind_eq_ok_iff.mp h
      obtain ⟨entries, hentries, h⟩ := bind_eq_ok_iff.mp h
      obtain ⟨⟨s, pending⟩, hread, h⟩ := bind_eq_ok_iff.mp h
      obtain ⟨s', hadd, -⟩ := bind_eq_ok_iff.mp h
      obtain ⟨names, hprojects, hnodup, -⟩ :=
        (exists_readProjects_iff .empty hnone).mp ⟨s, pending, hread⟩
      refine ⟨table, entries, names, rfl, ?_, ?_, hprojects, hnodup, ?_⟩
      · exact exists_textField_iff.mp ⟨name, hname⟩
      · exact projectEntries_eq_ok_iff.mp (mapError_eq_ok_iff.mp hentries)
      · exact (hpasses hprojects hread).mp ⟨s', mapError_eq_ok_iff.mp hadd⟩
    · rintro ⟨_, entries, names, ⟨⟩, hworkspace, hlisted, hprojects, hnodup, hdependencies⟩
      obtain ⟨name, hname⟩ := exists_textField_iff.mpr hworkspace
      have hentries := mapError_eq_ok_iff (f := ReadError.diagnosed).mpr
        (projectEntries_eq_ok_iff.mpr hlisted)
      obtain ⟨s, pending, hread⟩ :
          ∃ s pending, readProjects root entries .empty [] = .ok (s, pending) :=
        (exists_readProjects_iff .empty hnone).mpr ⟨names, hprojects, hnodup, fun _ _ => rfl⟩
      obtain ⟨s', hadd⟩ := (hpasses hprojects hread).mpr hdependencies
      exact ⟨_, bind_eq_ok_iff.mpr ⟨name, hname, bind_eq_ok_iff.mpr ⟨entries, hentries,
        bind_eq_ok_iff.mpr ⟨_, hread, bind_eq_ok_iff.mpr ⟨s', mapError_eq_ok_iff.mpr hadd,
          rfl⟩⟩⟩⟩⟩
  | _ =>
    refine iff_of_false ?_ ?_
    · rintro ⟨_, h⟩
      cases h
    · rintro ⟨_, _, _, h, -⟩
      cases h

end

end Workspace

/-- A workspace that is called by an integer of one digit too many. -/
def Sample.countless : Value := .table [("workspace", .integer (Nat.pow 10 digitLimit : Nat))]

/-- It would be valid if every value could be written. -/
theorem Workspace.not_exists_ofValue_countless :
    Workspace.Valid (fun _ => True) Sample.countless ∧
      ¬ ∃ w, Workspace.ofValue .here "workspace" Sample.countless = .ok w := by
  constructor
  · refine ⟨_, [], [], rfl, fun _ _ => trivial, rfl, .nil, List.nodup_nil, ?_⟩
    intro entry hentry
    cases hentry
  · rintro ⟨w, h⟩
    obtain ⟨name, hname, -⟩ := bind_eq_ok_iff.mp h
    have hshort : Workspace.Writable (.integer (Nat.pow 10 digitLimit : Nat)) :=
      Workspace.exists_textField_iff.mp ⟨name, hname⟩ _ rfl
    exact hshort (.integer (Nat.le_of_eq (Int.natAbs_natCast _).symm))

end CMakeGen
