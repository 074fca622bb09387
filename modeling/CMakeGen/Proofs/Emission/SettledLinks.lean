import CMakeGen.Proofs.Emission.Links
import CMakeGen.Proofs.Path.Normal
import CMakeGen.Proofs.Path.Written

/-!
# Links that are settled

A script is read from another directory than the one it was written for, so a link that names a file
should say where the file is from the top, with forward slashes. `IsSettled` says of a text that it does.

A link entry is taken for a file by a separator of either kind, but it is read as a path whose parts are
divided by forward slashes alone, in a directory that may itself be relative. So **a link is settled, or
free of separators, iff what the entry is read as starts from the top, or is a single step, and no name
that is left in it holds a backslash** (`settled_iff`). Where everything is read from the top, what comes
out is not changed by going through the links again (`resolveLink_again`).
-/

namespace CMakeGen

/-- An absolute path by names alone, with forward slashes only. Two slashes at the front are a root of
their own. -/
def IsSettled (text : String) : Prop :=
  ∃ (root : Root) (names : Location), root ≠ .relative ∧
    text = Path.toString ⟨root, names.map .name⟩ ∧ '\\' ∉ text.toList

/-- A text is settled iff it is read as a path from the top without climbs, and written as it is read. -/
theorem isSettled_iff {text : String} :
    IsSettled text ↔ (Path.ofString text).root ≠ .relative ∧ .up ∉ (Path.ofString text).segments ∧
      (Path.ofString text).toString = text ∧ '\\' ∉ text.toList := by
  constructor
  · intro h
    obtain ⟨root, names, hroot, rfl, hback⟩ := h
    rw [Path.ofString_toString]
    exact ⟨hroot, by simp, rfl, hback⟩
  · intro h
    obtain ⟨hroot, hup, hwritten, hback⟩ := h
    have hnames : ((Path.ofString text).segments.filterMap Segment.name?).map Segment.name
        = (Path.ofString text).segments := by
      rw [List.map_filterMap]
      refine (List.filterMap_congr fun s hs => ?_).trans List.filterMap_some
      cases s with
      | up => exact absurd hs hup
      | name entry => rfl
    refine ⟨(Path.ofString text).root, (Path.ofString text).segments.filterMap Segment.name?, hroot,
      ?_, hback⟩
    rw [hnames]
    exact hwritten.symm

instance (text : String) : Decidable (IsSettled text) := decidable_of_iff' _ isSettled_iff

/-! ## What a path is written as -/

namespace Path

/-- A path starts from the top or is a single step at most, and no backslash is left in it. -/
def Settles (p : Path) : Prop :=
  (p.root ≠ .relative ∨ p.normal.segments.length ≤ 1) ∧ ∀ entry ∈ p.names, '\\' ∉ entry.text.toList

instance (p : Path) : Decidable p.Settles := inferInstanceAs (Decidable (_ ∧ _))

theorem root_normal (p : Path) : p.normal.root = p.root := by
  obtain ⟨root, segments⟩ := p
  cases root <;> rfl

theorem backslash_mem_normal_iff {p : Path} :
    '\\' ∈ p.normal.toString.toList ↔ ∃ entry ∈ p.names, '\\' ∈ entry.text.toList := by
  rw [mem_toString_iff (by decide) (by decide), names]
  constructor
  · intro h
    obtain ⟨s, hs, hback⟩ := h
    cases s with
    | up => exact absurd hback (by decide)
    | name entry => exact ⟨entry, List.mem_filterMap.mpr ⟨_, hs, rfl⟩, hback⟩
  · intro h
    obtain ⟨entry, hentry, hback⟩ := h
    obtain ⟨s, hs, hname⟩ := List.mem_filterMap.mp hentry
    cases s with
    | up => cases hname
    | name other =>
      cases hname
      exact ⟨_, hs, hback⟩

/-- What starts from the top is normal as soon as it is names alone. -/
theorem normal_of_names {root : Root} (hroot : root ≠ .relative) (names : Location) :
    normal ⟨root, names.map .name⟩ = ⟨root, names.map .name⟩ := by
  have hfollow : Location.follow [] (names.map .name) = names :=
    (Location.follow_map_name [] names).trans (List.nil_append names)
  cases root with
  | relative => exact absurd rfl hroot
  | single => exact congrArg (fun names : Location => Path.mk .single (names.map .name)) hfollow
  | double => exact congrArg (fun names : Location => Path.mk .double (names.map .name)) hfollow

theorem settled_iff (p : Path) :
    isPathReference p.normal.toString = false ∨ IsSettled p.normal.toString ↔ p.Settles := by
  have hreference : isPathReference p.normal.toString = false ↔
      '/' ∉ p.normal.toString.toList ∧ '\\' ∉ p.normal.toString.toList := by
    rw [← Bool.not_eq_true, isPathReference_iff, not_or]
  have hback : '\\' ∉ p.normal.toString.toList ↔ ∀ entry ∈ p.names, '\\' ∉ entry.text.toList := by
    rw [backslash_mem_normal_iff]
    simp
  rw [hreference, slash_mem_toString_iff, root_normal, hback, Settles]
  by_cases hroot : p.root = .relative
  · -- A path that does not start from the top is never settled, so it has to be a name.
    have hnot : ¬ IsSettled p.normal.toString := by
      rw [isSettled_iff, ofString_toString, root_normal]
      exact fun h => h.1 hroot
    simp only [hnot, or_false, hroot, ne_eq, not_true, false_or, Nat.not_le, Nat.lt_succ_iff]
  · have hsettled : IsSettled p.normal.toString ↔ ∀ entry ∈ p.names, '\\' ∉ entry.text.toList := by
      rw [← hback]
      constructor
      · intro h
        exact (isSettled_iff.mp h).2.2.2
      · intro h
        exact ⟨p.root, p.locate [], hroot, by rw [normal_absolute hroot []], h⟩
    simp [hroot, hsettled]

end Path

/-! ## What a link entry becomes -/

/-- The path that a link entry of a project at `location` is read as. -/
def FileSystem.reading (fs : FileSystem) (cwd : Location) (location : Path) (entry : String) :
    Path :=
  (fs.current cwd).join (location.join (.ofString entry))

section

variable {fs : FileSystem} {cwd : Location} {location : Path} {entry : String}

theorem FileSystem.root_reading :
    (fs.reading cwd location entry).root ≠ .relative ↔
      (Path.ofString entry).root ≠ .relative ∨ location.root ≠ .relative ∨
        (fs.current cwd).root ≠ .relative := by
  rw [reading, Path.root_join, Path.root_join]
  by_cases hentry : (Path.ofString entry).root = .relative
  · by_cases hlocation : location.root = .relative <;> simp [hentry, hlocation]
  · simp [hentry]

theorem resolveLink_of_reference (h : isPathReference entry = true) :
    resolveLink fs cwd location entry = (fs.reading cwd location entry).normal.toString := by
  rw [resolveLink, if_pos h]
  rfl

theorem resolveLink_of_name (h : isPathReference entry = false) :
    resolveLink fs cwd location entry = entry := by
  rw [resolveLink, h]
  rfl

/-- What is read from the top is settled once and for all. -/
theorem resolveLink_again
    (h : isPathReference entry = true → (fs.reading cwd location entry).root ≠ .relative) :
    resolveLink fs cwd location (resolveLink fs cwd location entry)
      = resolveLink fs cwd location entry := by
  cases hreference : isPathReference entry with
  | false => rw [resolveLink_of_name hreference, resolveLink_of_name hreference]
  | true =>
    have hroot := h hreference
    have hnormal := Path.normal_absolute hroot []
    have hlink : isPathReference (fs.reading cwd location entry).normal.toString = true := by
      rw [isPathReference_iff, Path.slash_mem_toString_iff, Path.root_normal]
      exact .inl (.inl hroot)
    have hread : fs.reading cwd location (fs.reading cwd location entry).normal.toString
        = (fs.reading cwd location entry).normal := by
      generalize fs.reading cwd location entry = p at *
      rw [FileSystem.reading, Path.ofString_toString, Path.join, Path.join, Path.root_normal,
        if_neg hroot, Path.root_normal, if_neg hroot]
    rw [resolveLink_of_reference hreference, resolveLink_of_reference hlink, hread, hnormal,
      Path.normal_of_names hroot]

end

/-- What becomes of the link entries of a configuration that belongs to a project. -/
structure SettledLinks (fs : FileSystem) (cwd : Location) (s : Store) (c : ConfigurationId)
    (project : Project) (entries links : List String) : Prop where
  resolved : resolveLinks fs cwd s c entries = .ok links
  /-- A link is free of separators or settled just in case the entry is, or is read as a path that
  settles. -/
  settled : List.Forall₂ (fun entry link =>
    (isPathReference link = false ∨ IsSettled link) ↔
      (isPathReference entry = true → (fs.reading cwd project.location entry).Settles)) entries links
  /-- If all paths start from the top, or are read where the project or the directory that paths are
  read in does, the links stay as they are. -/
  again : (∀ entry ∈ entries, isPathReference entry = true →
      (Path.ofString entry).root ≠ .relative ∨ project.location.root ≠ .relative ∨
        (fs.current cwd).root ≠ .relative) →
    resolveLinks fs cwd s c links = .ok links

/-- **Every link is settled or free of separators, as far as entries are read from the top and with
forward slashes.** -/
theorem resolveLinks_settled {fs : FileSystem} {cwd : Location} {s : Store} {c : ConfigurationId}
    {project : Project} (howner : s.owner? c = some project) (entries : List String) :
    SettledLinks fs cwd s c project entries
      (entries.map (resolveLink fs cwd project.location)) := by
  have hresolve (entries : List String) : resolveLinks fs cwd s c entries
      = .ok (entries.map (resolveLink fs cwd project.location)) := by
    rw [resolveLinks, howner]
  constructor
  case resolved => exact hresolve entries
  case settled =>
    rw [List.forall₂_map_right_iff, List.forall₂_same]
    intro entry _
    cases hreference : isPathReference entry with
    | false =>
      rw [resolveLink_of_name hreference, hreference]
      simp
    | true =>
      rw [resolveLink_of_reference hreference, Path.settled_iff]
      simp
  case again =>
    intro hroots
    rw [hresolve, List.map_map]
    refine congrArg Except.ok (List.map_congr_left fun entry hentry => ?_)
    exact resolveLink_again fun hreference =>
      FileSystem.root_reading.mpr (hroots entry hentry hreference)

/-- A program with a configuration. -/
def Sample.linking (location : String) : Store where
  projects := [{ name := "app", location := .ofString location, configurations := [⟨0⟩] }]
  configurations := [⟨{ name := "Debug" }, some ⟨0⟩⟩]

/-- Next to a project that starts from the top, links are settled wherever paths are read. -/
theorem resolveLinks_settled_sample :
    SettledLinks { directory := some (.ofString "sub") } [⟨"work", by decide⟩]
        (Sample.linking "/srv/app") ⟨0⟩ ((Sample.linking "/srv/app").project ⟨0⟩)
        ["../lib//x.a", "m"] ["/srv/lib/x.a", "m"] ∧
      resolveLinks { directory := some (.ofString "sub") } [⟨"work", by decide⟩]
        (Sample.linking "/srv/app") ⟨0⟩ ["/srv/lib/x.a", "m"] = .ok ["/srv/lib/x.a", "m"] := by
  have hsettled : SettledLinks { directory := some (.ofString "sub") } [⟨"work", by decide⟩]
      (Sample.linking "/srv/app") ⟨0⟩ ((Sample.linking "/srv/app").project ⟨0⟩)
      ["../lib//x.a", "m"] ["/srv/lib/x.a", "m"] :=
    resolveLinks_settled rfl ["../lib//x.a", "m"]
  exact ⟨hsettled, hsettled.again (by decide)⟩

/-- In a directory that is relative a link stays relative, and goes deeper each time; and a backslash is
no separator once the path is read. -/
theorem resolveLinks_unsettled :
    resolveLinks { directory := some (.ofString "sub") } [⟨"work", by decide⟩] (Sample.linking ".") ⟨0⟩
        ["libs/a.a"] = .ok ["sub/libs/a.a"] ∧
      ¬ (isPathReference "sub/libs/a.a" = false ∨ IsSettled "sub/libs/a.a") ∧
      resolveLinks { directory := some (.ofString "sub") } [⟨"work", by decide⟩] (Sample.linking ".")
        ⟨0⟩ ["sub/libs/a.a"] = .ok ["sub/sub/libs/a.a"] ∧
    resolveLinks {} [⟨"work", by decide⟩] (Sample.linking ".") ⟨0⟩ ["libs\\a.lib"]
        = .ok ["/work/libs\\a.lib"] ∧
      ¬ (isPathReference "/work/libs\\a.lib" = false ∨ IsSettled "/work/libs\\a.lib") := by
  refine ⟨?_, ?_, ?_, ?_, ?_⟩
  · decide
  · decide
  · decide
  · decide
  · decide

end CMakeGen
