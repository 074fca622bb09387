import CMakeGen.FileSystem
import CMakeGen.Proofs.Disk.Files

/-!
# Disks that differ in what is in some files

Two disks have the same directories and files at the same places, but what is in the files at some of
them may differ (`DifferWithin`). **No operation but reading can tell them apart** (`find_eq`, `isFile_eq`,
`pathExists_eq`): a path is followed through directories, and what is asked about a file is whether it is
there. Operations that change the disks go on in step, and fail alike (`DifferWithin.write`,
`DifferWithin.makeDirectories`); to write a file makes it the same on both.
-/

namespace CMakeGen

namespace Disk

/-- The disks hold the same, except that files at such places may have other contents. -/
structure DifferWithin (P : Location → Prop) (d d' : Disk) : Prop where
  denied : d'.denied = d.denied
  full : d'.full = d.full
  node : ∀ place, d'.node? place = d.node? place ∨
    P place ∧ ∃ contents contents', d.node? place = some (.file contents) ∧
      d'.node? place = some (.file contents')

namespace DifferWithin

variable {P Q : Location → Prop} {d d' : Disk} {cwd : Location} {p : Path}

theorem mono (h : DifferWithin P d d') (hPQ : ∀ place, P place → Q place) : DifferWithin Q d d' :=
  ⟨h.denied, h.full, fun place => (h.node place).imp_right (.imp_left (hPQ place))⟩

/-- Outside the places the disks hold the same. -/
theorem node?_eq (h : DifferWithin P d d') {place : Location} (hplace : ¬ P place) :
    d'.node? place = d.node? place :=
  (h.node place).resolve_right fun hboth => hplace hboth.1

/-! ### Questions -/

/-- The same kind of node stands at a place, if any does. -/
theorem node?_cases (h : DifferWithin P d d') (place : Location) :
    (d.node? place = none ∧ d'.node? place = none) ∨
      ∃ node node', d.node? place = some node ∧ d'.node? place = some node' ∧
        node'.isDirectory = node.isDirectory := by
  rcases h.node place with heq | ⟨-, contents, contents', hfile, hfile'⟩
  · rw [heq]
    cases d.node? place with
    | none => exact .inl ⟨rfl, rfl⟩
    | some node => exact .inr ⟨node, node, rfl, rfl, rfl⟩
  · exact .inr ⟨_, _, hfile, hfile', rfl⟩

theorem enter_eq (h : DifferWithin P d d') (place : Location) : d'.enter place = d.enter place := by
  unfold enter
  rw [h.denied]
  rcases h.node place with heq | ⟨-, contents, contents', hfile, hfile'⟩
  · rw [heq]
  · rw [hfile, hfile']

theorem walk_eq (h : DifferWithin P d d') (place : Location) (steps : List Segment) :
    d'.walk place steps = d.walk place steps := by
  induction steps generalizing place with
  | nil => rw [walk, walk, h.denied]
  | cons step rest ih => rw [walk, walk, h.enter_eq, ih]

theorem find_eq (h : DifferWithin P d d') (cwd : Location) (p : Path) :
    d'.find cwd p = d.find cwd p :=
  h.walk_eq [] _

theorem access_alike (h : DifferWithin P d d') (cwd : Location) (p : Path) :
    Alike (fun node node' => node'.isDirectory = node.isDirectory) (d.access cwd p)
      (d'.access cwd p) := by
  refine .bind_same (h.find_eq cwd p) fun place _ => ?_
  rcases h.node?_cases place with ⟨hnone, hnone'⟩ | ⟨node, node', hnode, hnode', hkind⟩
  · rw [hnone, hnone']
    exact .error _
  · rw [hnode, hnode']
    exact .ok hkind

/-- A question about what kind of node there is has the same answer. -/
theorem ask_eq (h : DifferWithin P d d') (cwd : Location) (p : Path) {question : Node → Bool}
    (hquestion : ∀ node node', Node.isDirectory node' = node.isDirectory →
      question node' = question node) :
    d'.ask cwd p question = d.ask cwd p question := by
  unfold ask
  rcases (h.access_alike cwd p).tell with ⟨reason, hfound, hfound'⟩ |
    ⟨node, node', hkind, hfound, hfound'⟩
  · rw [hfound, hfound']
  · rw [hfound, hfound']
    dsimp only
    rw [hquestion node node' hkind]

theorem isFile_eq (h : DifferWithin P d d') (cwd : Location) (p : Path) :
    d'.isFile cwd p = d.isFile cwd p :=
  h.ask_eq cwd p fun _ _ hkind => by rw [hkind]

theorem isDirectory_eq (h : DifferWithin P d d') (cwd : Location) (p : Path) :
    d'.isDirectory cwd p = d.isDirectory cwd p :=
  h.ask_eq cwd p fun _ _ hkind => hkind

theorem pathExists_eq (h : DifferWithin P d d') (cwd : Location) (p : Path) :
    d'.pathExists cwd p = d.pathExists cwd p :=
  h.ask_eq cwd p fun _ _ _ => rfl

/-! ### Changes -/

theorem put (h : DifferWithin P d d') {place : Location} (hplace : place ≠ []) (node : Node) :
    DifferWithin (fun q => P q ∧ q ≠ place) (d.put place node) (d'.put place node) := by
  refine ⟨h.denied, h.full, fun q => ?_⟩
  rw [node?_put hplace, node?_put hplace]
  by_cases hq : q = place
  · rw [if_pos hq, if_pos hq]
    exact .inl rfl
  · rw [if_neg hq, if_neg hq]
    exact (h.node q).imp_right fun hboth => ⟨⟨hboth.1, hq⟩, hboth.2⟩

/-- The disks after something that may fail on the way, which it does on both or on neither. -/
def Paired (P : Location → Prop) (made made' : Disk × Option Error) : Prop :=
  made'.2 = made.2 ∧ DifferWithin P made.1 made'.1

/-- A file is opened on both disks or on neither, and then it is empty on both. -/
theorem openFile (h : DifferWithin P d d') (cwd : Location) (p : Path) :
    Alike (fun found found' => found'.1 = found.1 ∧ found.1 ≠ [] ∧
        DifferWithin (fun q => P q ∧ q ≠ p.locate cwd) found.2 found'.2)
      (d.openFile cwd p) (d'.openFile cwd p) := by
  unfold Disk.openFile
  rw [h.find_eq]
  split
  · exact .error _
  cases hfind : d.find cwd p with
  | error reason => exact .error _
  | ok place =>
    obtain rfl := find_eq_ok hfind
    dsimp only
    rcases h.node?_cases (p.locate cwd) with ⟨hnone, hnone'⟩ | ⟨node, node', hnode, hnode', hkind⟩
    · have htop : p.locate cwd ≠ [] := ne_nil_of_node?_ne (by rw [hnone]; exact nofun)
      rw [hnone, hnone']
      exact .ok ⟨rfl, htop, h.put htop _⟩
    · rw [hnode, hnode']
      cases node <;> cases node' <;> cases hkind
      case directory.directory.refl => exact .error _
      case file.file.refl =>
        have htop : p.locate cwd ≠ [] := ne_nil_of_node?_ne (by rw [hnode]; exact nofun)
        exact .ok ⟨rfl, htop, h.put htop _⟩

/-- A file that is written is the same on both disks afterwards, also if it is not all there. -/
theorem write (h : DifferWithin P d d') (cwd : Location) (p : Path) (contents : ByteArray) :
    Paired P (d.write cwd p contents) (d'.write cwd p contents) ∧
      ((d.write cwd p contents).2 = none →
        DifferWithin (fun q => P q ∧ q ≠ p.locate cwd) (d.write cwd p contents).1
          (d'.write cwd p contents).1) := by
  unfold Disk.write
  rcases (h.openFile cwd p).tell with
    ⟨e, hopen, hopen'⟩ | ⟨⟨place, opened⟩, ⟨place', opened'⟩, hfound, hopen, hopen'⟩
  · rw [hopen, hopen']
    exact ⟨⟨rfl, h⟩, nofun⟩
  · obtain ⟨hsame, htop, hopened⟩ := hfound
    dsimp only at hsame htop hopened
    subst hsame
    have hput (bytes : ByteArray) := hopened.put htop (.file bytes)
    rw [hopen, hopen']
    simp only [hopened.full]
    cases opened.full.lookup place' with
    | none =>
      refine ⟨⟨rfl, (hput _).mono fun _ hboth => hboth.1.1⟩, fun _ => ?_⟩
      exact (hput _).mono fun _ hboth => hboth.1
    | some room => exact ⟨⟨rfl, (hput _).mono fun _ hboth => hboth.1.1⟩, nofun⟩

theorem makeDirectory (h : DifferWithin P d d') (cwd : Location) (p : Path) :
    Alike (DifferWithin P) (d.makeDirectory cwd p) (d'.makeDirectory cwd p) := by
  unfold Disk.makeDirectory
  rw [h.find_eq]
  split
  · exact .error _
  cases hfind : d.find cwd p with
  | error reason => exact .error _
  | ok place =>
    dsimp only
    rcases h.node?_cases place with ⟨hnone, hnone'⟩ | ⟨node, node', hnode, hnode', -⟩
    · rw [hnone, hnone']
      refine .ok ((h.put (ne_nil_of_node?_ne (by rw [hnone]; exact nofun)) _).mono ?_)
      exact fun _ hboth => hboth.1
    · rw [hnode, hnode']
      exact .error _

theorem toleratePresent (h : DifferWithin P d d') (cwd : Location) (p : Path) (e : Error) :
    Paired P (d.toleratePresent cwd p e) (d'.toleratePresent cwd p e) := by
  unfold Disk.toleratePresent
  rw [h.isDirectory_eq]
  split
  · exact ⟨rfl, h⟩
  · exact ⟨rfl, h⟩

/-- The last attempt at a directory. -/
theorem lastAttempt (h : DifferWithin P d d') (cwd : Location) (p : Path) :
    Paired P
      (match d.makeDirectory cwd p with
        | .ok d => (d, none)
        | .error (.fault .notFound q) => (d, some (.fault .notFound q))
        | .error e => d.toleratePresent cwd p e)
      (match d'.makeDirectory cwd p with
        | .ok d' => (d', none)
        | .error (.fault .notFound q) => (d', some (.fault .notFound q))
        | .error e => d'.toleratePresent cwd p e) := by
  rcases (h.makeDirectory cwd p).tell with ⟨e, hmake, hmake'⟩ | ⟨made, made', hmade, hmake, hmake'⟩
  · rw [hmake, hmake']
    rcases e with ⟨_ | _, q⟩ | _
    case fault.notFound => exact ⟨rfl, h⟩
    all_goals exact h.toleratePresent cwd p _
  · rw [hmake, hmake']
    exact ⟨rfl, hmade⟩

theorem makeDirectoriesAlong (h : DifferWithin P d d') (cwd : Location) (root : Root)
    (segments : List Segment) :
    Paired P (d.makeDirectoriesAlong cwd root segments)
      (d'.makeDirectoriesAlong cwd root segments) := by
  induction segments with
  | nil => exact h.lastAttempt cwd ⟨root, []⟩
  | cons last before ih =>
    unfold Disk.makeDirectoriesAlong
    dsimp only
    rcases (h.makeDirectory cwd ⟨root, (last :: before).reverse⟩).tell with
      ⟨e, hmake, hmake'⟩ | ⟨made, made', hmade, hmake, hmake'⟩
    · rw [hmake, hmake']
      rcases e with ⟨_ | _, q⟩ | _
      case fault.notFound =>
        -- The parents are made on both disks, or fail on both, before the directory is tried again.
        generalize d.makeDirectoriesAlong cwd root before = parents at ih
        generalize d'.makeDirectoriesAlong cwd root before = parents' at ih
        obtain ⟨made, failure⟩ := parents
        obtain ⟨made', failure'⟩ := parents'
        obtain ⟨hfailure, hmade⟩ := ih
        dsimp only at hfailure hmade
        subst hfailure
        cases failure' with
        | some e => exact ⟨rfl, hmade⟩
        | none => exact hmade.lastAttempt cwd _
      all_goals exact h.toleratePresent cwd _ _
    · rw [hmake, hmake']
      exact ⟨rfl, hmade⟩

theorem makeDirectories (h : DifferWithin P d d') (cwd : Location) (p : Path) :
    Paired P (d.makeDirectories cwd p) (d'.makeDirectories cwd p) :=
  h.makeDirectoriesAlong cwd p.root p.segments.reverse

end DifferWithin

/-- Disks on which other contents were put into a file differ in what is in this file. -/
theorem differWithin_of_put {d : Disk} {cwd : Location} {p : Path} {contents : ByteArray}
    (hread : d.read cwd p = .ok contents) (contents' : ByteArray) :
    DifferWithin (· = p.locate cwd) d (d.put (p.locate cwd) (.file contents')) := by
  have hopen := canOpen_of_read hread
  obtain ⟨-, -, hfile⟩ := read_eq_ok_iff.mp hread
  refine ⟨rfl, rfl, fun place => ?_⟩
  rw [node?_put (ne_nil_of_node?_ne hopen.node)]
  by_cases hplace : place = p.locate cwd
  · rw [if_pos hplace, hplace]
    unfold file? at hfile
    split at hfile
    · next old hold => exact .inr ⟨rfl, old, contents', hold, rfl⟩
    · cases hfile
  · rw [if_neg hplace]
    exact .inl rfl

end Disk

/-- A probe cannot tell the disks apart. -/
theorem FileSystem.probe_differWithin {P : Location → Prop} {disk disk' : Disk}
    (h : Disk.DifferWithin P disk disk') (fs : FileSystem) (cwd : Location) (p : Path) :
    fs.probe ⟨disk', cwd⟩ p = fs.probe ⟨disk, cwd⟩ p := by
  unfold probe
  dsimp only
  rw [h.isFile_eq]

end CMakeGen
