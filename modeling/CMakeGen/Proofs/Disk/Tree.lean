import CMakeGen.FileSystem
import CMakeGen.Proofs.Disk.Files
import CMakeGen.Proofs.Path.Normal
import Mathlib.Data.List.Induction

/-!
# Disks that are trees

On a disk that is a tree whatever stands somewhere stands in a directory (`IsTree`). So a normal path
to a file can be followed as soon as the place that it is read in is there: every place on the way is
above that place or above the file (`Path.above_of_steps_normal`).

**More directories and more files make no difference to a probe**, as long as the file that is asked
for is left alone (`probe_eq_true_congr`). On a disk that is no tree they would: a file below a missing
directory comes within reach when the directory is made.
-/

namespace CMakeGen

/-! ## The way of a normal path -/

namespace Path

/-- A way that goes down from the top, climbs, and goes down again is never anywhere but above the
place where it turns or above its end. -/
theorem above_of_split {start names : Location} {n : Nat} {before after : List Segment}
    {step : Segment} (h : start.map .name ++ detour n names = before ++ step :: after) :
    Location.follow [] before <+: start ∨ ∃ last rest,
      Location.follow [] (start.map .name ++ detour n names)
        = Location.follow [] before ++ last :: rest := by
  have hturn (m : Nat) : Location.follow [] (start.map .name ++ List.replicate m .up)
      = start.take (start.length - m) := by
    rw [Location.follow_append, Location.follow_map_name, List.nil_append,
      Location.follow_replicate_up]
  rw [detour, ← List.append_assoc] at h ⊢
  rcases List.append_eq_append_iff.mp h with ⟨middle, rfl, hdown⟩ | ⟨middle, hup, -⟩
  · -- The way is at its second descent.
    obtain ⟨passed, rest, rfl, rfl, hrest⟩ := List.map_eq_append_iff.mp hdown
    obtain ⟨last, rest, rfl, -, -⟩ := List.map_eq_cons_iff.mp hrest
    refine .inr ⟨last, rest, ?_⟩
    rw [Location.follow_append, Location.follow_append _ _ (passed.map Segment.name),
      Location.follow_map_name, Location.follow_map_name, List.append_assoc]
  · refine .inl ?_
    rcases List.append_eq_append_iff.mp hup with ⟨climb, rfl, hclimb⟩ | ⟨more, hstart, -⟩
    · obtain ⟨-, hclimb, -⟩ := List.append_eq_replicate_iff.mp hclimb.symm
      rw [hclimb, hturn]
      exact List.take_prefix _ _
    · obtain ⟨passed, rest, rfl, rfl, -⟩ := List.map_eq_append_iff.mp hstart
      rw [Location.follow_map_name]
      exact ⟨rest, rfl⟩

theorem steps_normal (p : Path) (cwd : Location) :
    ∃ start, (start = [] ∨ start = cwd) ∧
      p.normal.steps cwd = start.map .name ++ detour (p.climb.getD 0) p.names := by
  have hsegments := p.segments_normal
  obtain ⟨root, segments⟩ := p
  cases root with
  | relative => exact ⟨cwd, .inr rfl, congrArg (cwd.map Segment.name ++ ·) hsegments⟩
  | single => exact ⟨[], .inl rfl, hsegments⟩
  | double => exact ⟨[], .inl rfl, hsegments⟩

/-- Following a normal path, one is above the place that it is read in or above the place that it
denotes. -/
theorem above_of_steps_normal {p : Path} {cwd : Location} {before after : List Segment}
    {step : Segment} (h : p.normal.steps cwd = before ++ step :: after) :
    Location.follow [] before <+: cwd ∨ ∃ last rest,
      p.normal.locate cwd = Location.follow [] before ++ last :: rest := by
  obtain ⟨start, hstart, hsteps⟩ := p.steps_normal cwd
  rw [locate, hsteps]
  rcases above_of_split (hsteps.symm.trans h) with habove | hrest
  · rcases hstart with rfl | rfl
    · exact .inl (habove.trans List.nil_prefix)
    · exact .inl habove
  · exact .inr hrest

end Path

namespace Disk

variable {d d' : Disk} {cwd : Location} {p : Path}

/-! ## Trees -/

/-- Whatever stands somewhere stands in a directory. -/
def IsTree (d : Disk) : Prop :=
  ∀ place, d.node? place ≠ none → d.node? place.dropLast = some .directory

theorem any_isDirectory_iff {node : Option Node} :
    node.any Node.isDirectory = true ↔ node = some .directory := by
  rcases node with _ | _ | _ <;> simp [Node.isDirectory]

theorem isTree_iff : d.IsTree ↔
    ∀ entry ∈ d.entries, (d.node? entry.1.dropLast).any Node.isDirectory = true := by
  simp only [any_isDirectory_iff]
  constructor
  · rintro h ⟨place, node⟩ hentry
    refine h place fun hnone => ?_
    rw [node?] at hnone
    split at hnone
    · cases hnone
    · exact absurd (List.lookup_eq_none_iff.mp hnone _ hentry) (by simp)
  · intro h place hplace
    by_cases htop : place = []
    · rw [htop]
      rfl
    · rw [node?, if_neg htop] at hplace
      obtain ⟨node, hnode⟩ := Option.ne_none_iff_exists'.mp hplace
      obtain ⟨before, after, hentries, -⟩ := List.lookup_eq_some_iff.mp hnode
      refine h (place, node) ?_
      rw [hentries]
      exact List.mem_append_right _ List.mem_cons_self

instance (d : Disk) : Decidable d.IsTree := decidable_of_iff _ isTree_iff.symm

/-- Above whatever stands somewhere there are directories only. -/
theorem IsTree.above (h : d.IsTree) {place rest : Location} (hrest : rest ≠ [])
    (hnode : d.node? (place ++ rest) ≠ none) : d.node? place = some .directory := by
  induction rest using List.reverseRecOn with
  | nil => exact absurd rfl hrest
  | append_singleton rest last ih =>
    have hparent := h _ hnode
    rw [← List.append_assoc, List.dropLast_concat] at hparent
    by_cases hnil : rest = []
    · rwa [hnil, List.append_nil] at hparent
    · exact ih hnil (by rw [hparent]; exact Option.some_ne_none _)

/-! ## Trees stay trees -/

theorem enter_eq_ok_iff {place : Location} :
    d.enter place = .ok () ↔ place ∉ d.denied ∧ d.node? place = some .directory := by
  rw [enter]
  split
  · next hdenied => simp [hdenied]
  · next hdenied =>
    rcases d.node? place with _ | _ | _ <;> simp [hdenied]

/-- What stands at a place can be put there as long as no directory is lost. -/
theorem IsTree.put (h : d.IsTree) {place : Location} (htop : place ≠ []) {node : Node}
    (hparent : d.node? place.dropLast = some .directory)
    (hkept : d.node? place = some .directory → node = .directory) : (d.put place node).IsTree := by
  intro q hq
  rw [node?_put htop] at hq ⊢
  by_cases hinside : q.dropLast = place
  · have hne : q ≠ place := by
      rintro rfl
      have hlength := congrArg List.length hinside
      have hpos := List.length_pos_iff.mpr htop
      rw [List.length_dropLast] at hlength
      omega
    rw [if_neg hne] at hq
    have hdirectory := h q hq
    rw [hinside] at hdirectory
    rw [if_pos hinside, hkept hdirectory]
  · rw [if_neg hinside]
    by_cases hplace : q = place
    · rw [hplace, hparent]
    · rw [if_neg hplace] at hq
      exact h q hq

/-- A path leads into a directory or to one. -/
theorem IsTree.parent_of_walk (h : d.IsTree) {place found : Location} {steps : List Segment}
    (hplace : d.node? place.dropLast = some .directory) (hwalk : d.walk place steps = .ok found) :
    d.node? found.dropLast = some .directory := by
  induction steps generalizing place with
  | nil =>
    rw [walk] at hwalk
    split at hwalk
    · cases hwalk
    · cases hwalk
      exact hplace
  | cons step rest ih =>
    obtain ⟨⟨⟩, henter, hwalk⟩ := bind_eq_ok_iff.mp hwalk
    have hhere : d.node? place = some .directory := (enter_eq_ok_iff.mp henter).2
    refine ih ?_ hwalk
    cases step with
    | name entry =>
      rw [Location.step, List.dropLast_concat]
      exact hhere
    | up =>
      refine h place.dropLast ?_
      rw [hplace]
      exact Option.some_ne_none _

theorem IsTree.parent_of_find (h : d.IsTree) (hfind : d.find cwd p = .ok (p.locate cwd)) :
    d.node? (p.locate cwd).dropLast = some .directory := by
  have htop : d.node? ([] : Location).dropLast = some .directory := if_pos rfl
  exact h.parent_of_walk htop hfind

theorem IsTree.write (h : d.IsTree) (cwd : Location) (p : Path) (contents : ByteArray) :
    (d.write cwd p contents).1.IsTree := by
  refine write_induction (P := IsTree) h fun hopen bytes => ?_
  refine h.put (ne_nil_of_node?_ne hopen.node) (h.parent_of_find hopen.find) fun hdir => ?_
  exact absurd hdir hopen.node

theorem IsTree.makeDirectory (h : d.IsTree) (hmake : d.makeDirectory cwd p = .ok d') :
    d'.IsTree := by
  obtain ⟨-, hfind, hnone, rfl⟩ := makeDirectory_eq_ok_iff.mp hmake
  have htop : p.locate cwd ≠ [] := ne_nil_of_node?_ne fun hdir => by rw [hnone] at hdir; cases hdir
  exact h.put htop (h.parent_of_find hfind) fun _ => rfl

/-! ## Asking for a file -/

/-- What can be followed on another disk can be followed where the directories are. -/
theorem walk_of_directories (hdenied : d.denied = d'.denied) {place found : Location}
    {steps : List Segment} (h : d'.walk place steps = .ok found)
    (hdirectories : ∀ before step after, steps = before ++ step :: after →
      d.node? (place.follow before) = some .directory) : d.walk place steps = .ok found := by
  induction steps generalizing place with
  | nil =>
    rw [walk] at h ⊢
    rwa [hdenied]
  | cons step rest ih =>
    obtain ⟨⟨⟩, henter, h⟩ := bind_eq_ok_iff.mp h
    have hhere : d.enter place = .ok () := by
      refine enter_eq_ok_iff.mpr ⟨?_, hdirectories [] step rest rfl⟩
      rw [hdenied]
      exact (enter_eq_ok_iff.mp henter).1
    refine bind_eq_ok_iff.mpr ⟨(), hhere, ih h fun before next after hsplit => ?_⟩
    exact hdirectories (step :: before) next after (congrArg (step :: ·) hsplit)

theorem find_normal_of_denied_eq (h : d.IsTree) (hcwd : d.node? cwd = some .directory)
    (hdenied : d.denied = d'.denied) (hnode : d.node? (p.normal.locate cwd) ≠ none)
    {found : Location} (hfind : d'.find cwd p.normal = .ok found) :
    d.find cwd p.normal = .ok found := by
  refine walk_of_directories hdenied hfind fun before step after hsplit => ?_
  rcases Path.above_of_steps_normal hsplit with ⟨rest, hrest⟩ | ⟨last, rest, hrest⟩
  · by_cases hnil : rest = []
    · rw [hnil, List.append_nil] at hrest
      rw [hrest, hcwd]
    · refine h.above hnil ?_
      rw [hrest, hcwd]
      exact Option.some_ne_none _
  · rw [hrest] at hnode
    exact h.above (List.cons_ne_nil last rest) hnode

theorem ask_eq_true_iff {question : Node → Bool} :
    d.ask cwd p question = .ok true ↔
      p.hasNull = false ∧ d.find cwd p = .ok (p.locate cwd) ∧
        ∃ node, d.node? (p.locate cwd) = some node ∧ question node = true := by
  rw [ask]
  cases hnull : p.hasNull with
  | true => simp
  | false =>
    rw [if_neg Bool.false_ne_true, access]
    cases hfind : d.find cwd p with
    | error fault => cases fault <;> simp [bind, Except.bind]
    | ok place =>
      obtain rfl := find_eq_ok hfind
      cases hnode : d.node? (p.locate cwd) <;> simp [bind, Except.bind, hnode]

theorem isFile_eq_true_iff :
    d.isFile cwd p = .ok true ↔
      p.hasNull = false ∧ d.find cwd p = .ok (p.locate cwd) ∧
        (d.file? (p.locate cwd)).isSome = true := by
  rw [isFile, ask_eq_true_iff, file?]
  refine and_congr_right fun _ => and_congr_right fun _ => ?_
  rcases d.node? (p.locate cwd) with _ | _ | _ <;> simp [Node.isDirectory]

theorem isFile_write {contents : ByteArray} (h : d.write cwd p contents = (d', none)) :
    d'.isFile cwd p = .ok true := by
  obtain ⟨hnull, hfind, hcontents⟩ := read_eq_ok_iff.mp (read_write h)
  refine isFile_eq_true_iff.mpr ⟨hnull, hfind, ?_⟩
  rw [hcontents]
  rfl

/-- A file stays a file when files are written, it may be the same one. -/
theorem isFile_of_write {contents : ByteArray} {q : Path} {e : Option Error}
    (h : d.write cwd q contents = (d', e)) (hfile : d.isFile cwd p = .ok true) :
    d'.isFile cwd p = .ok true := by
  obtain rfl : (d.write cwd q contents).1 = d' := congrArg Prod.fst h
  refine write_induction (P := fun disk => disk.isFile cwd p = .ok true) hfile fun hopen bytes => ?_
  obtain ⟨hnull, hfind, hsome⟩ := isFile_eq_true_iff.mp hfile
  refine isFile_eq_true_iff.mpr ⟨hnull, (hopen.accessible_put bytes).find hfind, ?_⟩
  rw [file?_put_file (ne_nil_of_node?_ne hopen.node)]
  split
  · rfl
  · exact hsome

theorem isDirectory_eq_true_iff :
    d.isDirectory cwd p = .ok true ↔
      p.hasNull = false ∧ d.find cwd p = .ok (p.locate cwd) ∧
        d.node? (p.locate cwd) = some .directory := by
  rw [isDirectory, ask_eq_true_iff]
  refine and_congr_right fun _ => and_congr_right fun _ => ?_
  rcases d.node? (p.locate cwd) with _ | _ | _ <;> simp [Node.isDirectory]

theorem isFile_normal_eq_true_congr (h : d.IsTree) (hcwd : d.node? cwd = some .directory)
    (haccessible : Accessible d d')
    (hfile : d'.file? (p.normal.locate cwd) = d.file? (p.normal.locate cwd)) :
    d'.isFile cwd p.normal = .ok true ↔ d.isFile cwd p.normal = .ok true := by
  rw [isFile_eq_true_iff, isFile_eq_true_iff, hfile]
  refine and_congr_right fun _ => ⟨?_, fun ⟨hfind, hsome⟩ => ⟨haccessible.find hfind, hsome⟩⟩
  rintro ⟨hfind, hsome⟩
  refine ⟨find_normal_of_denied_eq h hcwd haccessible.denied.symm (fun hnone => ?_) hfind, hsome⟩
  rw [file?, hnone] at hsome
  cases hsome

end Disk

/-- The disk is a tree and the process works in one of its directories. -/
structure Host.Sound (host : Host) : Prop where
  tree : host.disk.IsTree
  working : host.disk.node? host.cwd = some .directory

namespace Host.Sound

variable {host : Host} {d d' : Disk} {cwd : Location} {p : Path}

theorem write (h : Sound ⟨d, cwd⟩) (p : Path) (contents : ByteArray) :
    Sound ⟨(d.write cwd p contents).1, cwd⟩ :=
  ⟨h.tree.write cwd p contents, (Disk.accessible_write rfl).directory cwd h.working⟩

theorem makeDirectory (h : Sound ⟨d, cwd⟩) (hmake : d.makeDirectory cwd p = .ok d') :
    Sound ⟨d', cwd⟩ :=
  ⟨h.tree.makeDirectory hmake, (Disk.accessible_makeDirectory hmake).directory cwd h.working⟩

end Host.Sound

namespace FileSystem

variable {fs : FileSystem} {host : Host} {p : Path}

theorem probe_eq_true_iff :
    fs.probe host p = some true ↔
      fs.failing = false ∧ host.disk.isFile host.cwd (fs.absolute host.cwd p) = .ok true := by
  rw [probe]
  cases fs.failing with
  | true => simp
  | false =>
    cases host.disk.isFile host.cwd (fs.absolute host.cwd p) with
    | ok answer => simp
    | error e => simp

/-- **A probe does not notice what else has been written since.** -/
theorem probe_eq_true_congr (h : host.Sound) {disk : Disk}
    (haccessible : host.disk.Accessible disk)
    (hfile : disk.file? ((fs.absolute host.cwd p).locate host.cwd)
      = host.disk.file? ((fs.absolute host.cwd p).locate host.cwd)) :
    fs.probe ⟨disk, host.cwd⟩ p = some true ↔ fs.probe host p = some true := by
  rw [probe_eq_true_iff, probe_eq_true_iff]
  exact and_congr_right fun _ =>
    Disk.isFile_normal_eq_true_congr h.tree h.working haccessible hfile

end FileSystem

end CMakeGen
