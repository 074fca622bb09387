import CMakeGen.Emission.Settings
import CMakeGen.Proofs.Model.Store
import CMakeGen.Proofs.Path.Rooted

/-!
# Where a precompiled header is found

The search takes the first candidate that is a file and spells it relative to the directory that the
project was defined in. That spelling is read again from this directory, by the build, so it has to
denote the file that was probed: it does, whatever climbs and absolute directories are among the
include directories (`FirstHit.absolute`). What is listed behind the first hit does not count
(`FirstHit.cut`).

A probe that fails counts as a no, so the search always ends well (`searchHeader_finds_first`).
-/

namespace CMakeGen

namespace Store

variable {s : Store} {c : ConfigurationId} {project : Project}

theorem owner?_modifySettings (s : Store) (c : ConfigurationId)
    (f : Configuration → Configuration) : (s.modifySettings c f).owner? c = s.owner? c := by
  have howner : ((s.modifySettings c f).attachment c).owner = (s.attachment c).owner := by
    rw [modifySettings, attachment_modifyAttachment]
    split <;> rfl
  rw [owner?, howner]
  rfl

/-- What belongs to a project is in the store, so its settings can be changed. -/
theorem configuration_modifySettings (h : s.owner? c = some project)
    (f : Configuration → Configuration) :
    (s.modifySettings c f).configuration c = f (s.configuration c) := by
  have hin : c.index < s.configurations.length := by
    apply Decidable.byContradiction
    intro hout
    rw [owner?, attachment, List.getD_eq_getElem?_getD,
      List.getElem?_eq_none (Nat.le_of_not_lt hout)] at h
    cases h
  rw [configuration, modifySettings, attachment_modifyAttachment, if_pos ⟨rfl, hin⟩]
  rfl

end Store

namespace FileSystem

variable {fs : FileSystem} {host : Host}

/-- A probe asks for the absolute form of a path and for nothing else. -/
theorem probe_congr {p q : Path} (h : fs.absolute host.cwd p = fs.absolute host.cwd q) :
    fs.probe host p = fs.probe host q := by
  rw [probe, probe, h]

end FileSystem

/-! ## The first candidate that is a file -/

section

variable {fs : FileSystem} {host : Host} {s : Store} {c : ConfigurationId} {project : Project}
  {header : String}

/-- To list fewer include directories is to try fewer candidates. -/
theorem headerCandidates_take (project : Project) (settings : Configuration) (header : String)
    (n : Nat) :
    headerCandidates project { settings with includeDirs := settings.includeDirs.take n } header
      = (headerCandidates project settings header).take (n + 1) := by
  simp only [headerCandidates, List.map_cons, List.take_succ_cons, List.map_take]

theorem searchHeader_of_hit (howner : s.owner? c = some project)
    (hwanted : wantedHeader? (s.configuration c) = some header) {before after : List Path}
    {candidate : Path}
    (hsplit : headerCandidates project (s.configuration c) header = before ++ candidate :: after)
    (hbefore : ∀ other ∈ before, fs.probe host other ≠ some true)
    (hhit : fs.probe host candidate = some true) :
    searchHeader fs host s c
      = .ok (.found header (fs.relative host.cwd candidate project.baseDir).toString) := by
  have hfind : (headerCandidates project (s.configuration c) header).find?
      (fs.probe host · = some true) = some candidate := by
    rw [List.find?_eq_some_iff_append]
    refine ⟨decide_eq_true hhit, before, after, hsplit, fun other hother => ?_⟩
    rw [Bool.not_eq_true', decide_eq_false_iff_not]
    exact hbefore other hother
  simp only [searchHeader, hwanted, howner, hfind]

theorem searchHeader_of_no_hit (howner : s.owner? c = some project)
    (hwanted : wantedHeader? (s.configuration c) = some header)
    (hno : ∀ candidate ∈ headerCandidates project (s.configuration c) header,
      fs.probe host candidate ≠ some true) :
    searchHeader fs host s c
      = .ok (.missing header (fs.absolute host.cwd (.ofString header)).toString) := by
  have hfind : (headerCandidates project (s.configuration c) header).find?
      (fs.probe host · = some true) = none := by
    rw [List.find?_eq_none]
    intro candidate hcandidate
    rw [decide_eq_true_iff]
    exact hno candidate hcandidate
  simp only [searchHeader, hwanted, howner, hfind]

/-- The search finds the header at `candidate`, which is tried after those `before` it, and spells
it `path`. -/
structure FirstHit (fs : FileSystem) (host : Host) (s : Store) (c : ConfigurationId)
    (project : Project) (header path : String) (before : List Path) (candidate : Path) : Prop where
  listed : before ++ [candidate] <+: headerCandidates project (s.configuration c) header
  earlier : ∀ other ∈ before, fs.probe host other ≠ some true
  hit : fs.probe host candidate = some true
  search : searchHeader fs host s c = .ok (.found header path)
  relative : (Path.ofString path).root = .relative
  /-- Read from the directory of the project, the spelling denotes what was probed. -/
  absolute : fs.absolute host.cwd (project.baseDir.join (.ofString path))
    = fs.absolute host.cwd candidate
  file : fs.probe host (project.baseDir.join (.ofString path)) = some true
  /-- The include directories behind the hit may as well not be listed. -/
  cut : searchHeader fs host
      (s.modifySettings c fun settings =>
        { settings with includeDirs := settings.includeDirs.take before.length }) c
    = .ok (.found header path)

theorem firstHit (h : fs.Rooted) (hcurrent : (fs.current host.cwd).root ≠ .double)
    (howner : s.owner? c = some project) (hbase : project.baseDir.root ≠ .double)
    (hwanted : wantedHeader? (s.configuration c) = some header) {before after : List Path}
    {candidate : Path} (hcandidate : candidate.root ≠ .double)
    (hsplit : headerCandidates project (s.configuration c) header = before ++ candidate :: after)
    (hbefore : ∀ other ∈ before, fs.probe host other ≠ some true)
    (hhit : fs.probe host candidate = some true) :
    FirstHit fs host s c project header
      (fs.relative host.cwd candidate project.baseDir).toString before candidate := by
  have habsolute := h.absolute_join_relative hcurrent hcandidate hbase
  constructor
  case listed => exact ⟨after, by rw [hsplit, List.append_assoc, List.singleton_append]⟩
  case earlier => exact hbefore
  case hit => exact hhit
  case search => exact searchHeader_of_hit howner hwanted hsplit hbefore hhit
  case relative =>
    rw [Path.ofString_toString]
    rfl
  case absolute => rw [Path.ofString_toString, habsolute]
  case file => rw [Path.ofString_toString, FileSystem.probe_congr habsolute, hhit]
  case cut =>
    have hconfiguration := Store.configuration_modifySettings howner fun settings =>
      { settings with includeDirs := settings.includeDirs.take before.length }
    have hsplit' : headerCandidates project
        { s.configuration c with
          includeDirs := (s.configuration c).includeDirs.take before.length } header
        = before ++ [candidate] := by
      rw [headerCandidates_take, hsplit, List.take_length_add_append]
      rfl
    apply searchHeader_of_hit
    · rw [Store.owner?_modifySettings, howner]
    · rw [hconfiguration, ← hwanted]
      rfl
    · rw [hconfiguration, hsplit']
    · exact hbefore
    · exact hhit

/-- **The search finds the first candidate that is a file and spells it so that the spelling leads
back to it; if there is none, it makes the header absolute.** -/
theorem searchHeader_finds_first (h : fs.Rooted) (hcurrent : (fs.current host.cwd).root ≠ .double)
    (howner : s.owner? c = some project) (hbase : project.baseDir.root ≠ .double)
    (hwanted : wantedHeader? (s.configuration c) = some header)
    (hcandidates : ∀ candidate ∈ headerCandidates project (s.configuration c) header,
      candidate.root ≠ .double) :
    ((∃ candidate ∈ headerCandidates project (s.configuration c) header,
        fs.probe host candidate = some true) →
      ∃ path before candidate, FirstHit fs host s c project header path before candidate) ∧
    ((∀ candidate ∈ headerCandidates project (s.configuration c) header,
        fs.probe host candidate ≠ some true) →
      searchHeader fs host s c
        = .ok (.missing header (fs.absolute host.cwd (.ofString header)).toString)) := by
  refine ⟨?_, searchHeader_of_no_hit howner hwanted⟩
  rintro ⟨found, hmem, hprobe⟩
  have hsome : ((headerCandidates project (s.configuration c) header).find?
      (fs.probe host · = some true)).isSome :=
    List.find?_isSome.mpr ⟨found, hmem, decide_eq_true hprobe⟩
  obtain ⟨candidate, hfind⟩ := Option.isSome_iff_exists.mp hsome
  obtain ⟨hhit, before, after, hsplit, hbefore⟩ := List.find?_eq_some_iff_append.mp hfind
  refine ⟨_, before, candidate, firstHit h hcurrent howner hbase hwanted
    (hcandidates candidate ?_) hsplit (fun other hother => ?_) (of_decide_eq_true hhit)⟩
  · rw [hsplit]
    exact List.mem_append_right _ List.mem_cons_self
  · have hno := hbefore other hother
    rw [Bool.not_eq_true', decide_eq_false_iff_not] at hno
    exact hno

end

/-- A project whose header is in its second include directory, next to the project. -/
def Sample.precompiled : Store where
  projects := [{ name := "app", baseDir := .ofString "app", configurations := [⟨0⟩] }]
  configurations := [
    ⟨{ name := "Debug", pchHeader := some "pch.h", includeDirs := ["inc", "../shared", "/usr"] },
      some ⟨0⟩⟩]

/-- The process works at the top, and the first include directory refuses access. -/
def Sample.shadowed : Host where
  disk :=
    ((Disk.empty.place [⟨"shared", by decide⟩, ⟨"pch.h", by decide⟩] (.file .empty)).place
      [⟨"app", by decide⟩, ⟨"inc", by decide⟩] .directory).deny
      [⟨"app", by decide⟩, ⟨"inc", by decide⟩]
  cwd := []

/-- The header is spelt with a climb out of the directory of the project. -/
theorem exists_firstHit_sample :
    ∃ before candidate, FirstHit {} Sample.shadowed Sample.precompiled ⟨0⟩
      (Sample.precompiled.project ⟨0⟩) "pch.h" "../shared/pch.h" before candidate := by
  have hrooted : FileSystem.Rooted {} := by
    intro home hhome
    cases hhome
  have hcurrent : (FileSystem.current {} Sample.shadowed.cwd).root ≠ .double := by decide
  have howner : Sample.precompiled.owner? ⟨0⟩ = some (Sample.precompiled.project ⟨0⟩) := rfl
  have hwanted : wantedHeader? (Sample.precompiled.configuration ⟨0⟩) = some "pch.h" := rfl
  obtain ⟨path, before, candidate, hhit⟩ :=
    (searchHeader_finds_first hrooted hcurrent howner (by decide) hwanted (by decide)).1
      (by decide)
  have hsearch : searchHeader {} Sample.shadowed Sample.precompiled ⟨0⟩
      = .ok (.found "pch.h" "../shared/pch.h") := by decide
  obtain rfl : path = "../shared/pch.h" := by
    have heq := hhit.search.symm.trans hsearch
    injection heq with heq
    injection heq with _ heq
  exact ⟨before, candidate, hhit⟩

end CMakeGen
