import CMakeGen.Proofs.Emission.Report
import CMakeGen.Proofs.Script.RoundTrip

/-!
# A rendered script can be read back

**Whatever a project holds, its script says it and nothing else** (`read_renderProject`): the
reader of `Proofs/Script/Reader.lean` gets back the report on the project, from the text alone.

What the writer cannot get across is asked for as little as possible. Names, files, directories and
dependencies stand between quotes and may hold anything. The values of lists stand inside
guards, where U+0000 can be a second spelling of another character and a carriage return ends an
argument; the path of a header is not inside a guard, so only the carriage return is in the way.
-/

namespace CMakeGen

/-! ## Headers -/

theorem Path.toString_ne_empty (p : Path) : p.toString ≠ "" := by
  obtain ⟨root, segments⟩ := p
  unfold Path.toString
  split
  · decide
  · next h =>
    intro hempty
    have hchars := congrArg String.toList hempty
    rw [String.toList_ofList, String.toList_empty, List.append_eq_nil_iff] at hchars
    obtain ⟨hroot, hsegments⟩ := hchars
    have hrel : root = .relative := by
      cases root with
      | relative => rfl
      | single => cases hroot
      | double => cases hroot
    cases segments with
    | nil => exact h ⟨hrel, rfl⟩
    | cons segment segments =>
      have hne : segment.toString.toList ≠ [] := by simpa using segment.toString_ne_empty
      cases segments with
      | nil => exact hne hsegments
      | cons next segments => exact hne (List.append_eq_nil_iff.mp hsegments).1

/-- The search for a header ends without one or with a path, which is never empty. -/
theorem searchHeader_path?_ne_empty {fs : FileSystem} {host : Host} {s : Store}
    {c : ConfigurationId} {found : HeaderSearch} {path : String}
    (h : searchHeader fs host s c = .ok found) (hp : found.path? = some path) : path ≠ "" := by
  simp only [searchHeader] at h
  cases hw : wantedHeader? (s.configuration c) with
  | none =>
    rw [hw] at h
    cases h
    cases hp
  | some header =>
    cases ho : s.owner? c with
    | none =>
      rw [hw, ho] at h
      cases h
    | some project =>
      rw [hw, ho] at h
      dsimp only at h
      split at h <;> cases h <;> cases hp <;> exact Path.toString_ne_empty _

/-! ## The statements of a report -/

/-- What a configuration may hold so that its statements can be read back. -/
structure Resolved.Legible (r : Resolved) (settings : Configuration) : Prop where
  name : Store.isConfigurationName settings.name = true
  values : ∀ entry ∈ r.lists settings, ∀ value ∈ entry.2,
    '\x00' ∉ value.toList ∧ '\r' ∉ value.toList
  header : ∀ path, r.header.path? = some path → path ≠ "" ∧ '\r' ∉ path.toList

theorem Resolved.Legible.readable {r : Resolved} {settings : Configuration}
    (h : r.Legible settings) {target : String} {statement : Statement}
    (hs : statement ∈ r.report target settings) : statement.Readable := by
  simp only [report, List.mem_append, List.mem_singleton, List.mem_flatMap, List.mem_map,
    Option.mem_toList] at hs
  rcases hs with ((rfl | ⟨⟨setting, values⟩, hentry, hs⟩) | ⟨standard, -, rfl⟩) | ⟨path, hp, rfl⟩
  · trivial
  · by_cases hnil : values = []
    · simp [hnil] at hs
    · simp only [hnil, if_false, List.mem_singleton] at hs
      subst hs
      exact ⟨h.name, hnil, h.values _ hentry⟩
  · exact h.name
  · exact ⟨h.name, h.header path hp⟩

theorem Project.readable_of_mem_report {s : Store} {project : Project}
    {resolved : List (ConfigurationId × Resolved)}
    (h : ∀ entry ∈ resolved, entry.2.Legible (s.configuration entry.1)) {statement : Statement}
    (hs : statement ∈ project.report s resolved) : statement.Readable := by
  simp only [report, List.mem_append, List.mem_singleton, List.mem_flatMap] at hs
  rcases hs with (rfl | hs) | ⟨entry, hentry, hs⟩
  · trivial
  · by_cases hnil : project.dependencies = []
    · simp [hnil] at hs
    · simp only [hnil, if_false, List.mem_singleton] at hs
      subst hs
      trivial
  · exact (h entry hentry).readable hs

namespace Setting

/-- **The script of a project reads as the report on it.** -/
theorem read_renderProject {x : Setting} {s : Store} {p : ProjectId} {text : String}
    (h : x.renderProject s p = .ok text)
    (hname : ∀ c ∈ (s.project p).configurations,
      Store.isConfigurationName (s.configuration c).name = true)
    (hvalue : ∀ c ∈ (s.project p).configurations, ∀ r, x.resolve s c = .ok r →
      ∀ entry ∈ r.lists (s.configuration c), ∀ value ∈ entry.2,
        '\x00' ∉ value.toList ∧ '\r' ∉ value.toList)
    (hheader : ∀ c ∈ (s.project p).configurations, ∀ r, x.resolve s c = .ok r →
      ∀ path, r.header.path? = some path → '\r' ∉ path.toList) :
    ∃ resolved, x.Resolves s (s.project p).configurations resolved ∧
      Script.read text = some ((s.project p).report s resolved) := by
  obtain ⟨resolved, hres, -, rfl⟩ := renderProject_eq_ok_iff.mp h
  refine ⟨resolved, hres, Script.read_render fun statement hs => ?_⟩
  refine Project.readable_of_mem_report (fun entry hentry => ?_) hs
  obtain ⟨hmem, hr⟩ := hres.mem hentry
  obtain ⟨-, -, -, -, hsearch⟩ := resolve_eq_ok_iff.mp hr
  exact {
    name := hname _ hmem
    values := hvalue _ hmem _ hr
    header := fun path hp =>
      ⟨searchHeader_path?_ne_empty hsearch hp, hheader _ hmem _ hr path hp⟩ }

/-- A script with quotes, tabs, line ends and the characters of guards in it. -/
theorem read_renderProject_sample :
    ∃ text, Sample.setting.renderProject Sample.store ⟨0⟩ = .ok text ∧
      ∃ resolved, Sample.setting.Resolves Sample.store [⟨0⟩, ⟨1⟩] resolved ∧
        Script.read text = some ((Sample.store.project ⟨0⟩).report Sample.store resolved) := by
  have hok : (Sample.setting.renderProject Sample.store ⟨0⟩).isOk = true := by decide
  have hvalue : ∀ c ∈ (Sample.store.project ⟨0⟩).configurations,
      ((Sample.setting.resolve Sample.store c).toOption.all fun r =>
        decide (∀ entry ∈ r.lists (Sample.store.configuration c), ∀ value ∈ entry.2,
          '\x00' ∉ value.toList ∧ '\r' ∉ value.toList)) = true := by decide
  have hheader : ∀ c ∈ (Sample.store.project ⟨0⟩).configurations,
      ((Sample.setting.resolve Sample.store c).toOption.all fun r =>
        decide (∀ path ∈ r.header.path?, '\r' ∉ path.toList)) = true := by decide
  obtain ⟨text, h⟩ := exists_ok_of_isOk hok
  exact ⟨text, h, read_renderProject h (by decide) (fun c hc r hr => of_all_of_ok (hvalue c hc) hr)
    fun c hc r hr => of_all_of_ok (hheader c hc) hr⟩

end Setting

end CMakeGen
