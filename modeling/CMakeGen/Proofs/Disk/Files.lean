import CMakeGen.Disk.Access
import CMakeGen.Proofs.Except

/-!
# What a change to a disk leaves alone

A disk is seen here as the contents of its files, place by place (`file?`). **Writing a file changes
that file and no other, also when it fails, and making directories changes none.** A file that cannot
be opened is what it was (`write_eq_of_ne_noSpace`); one that is opened where there is no room is not.

Which file a path leads to is a lexical matter (`find_eq_ok`): the disk decides whether the path can
be followed, and never where to. Whether it can be followed hangs on the directories and on the places
that refuse access. Writing leaves both alone, so a path that led to its file still does when more
files are written (`Accessible`).
-/

namespace CMakeGen

/-- The way to the place that a path denotes leads through a place, if it does not end there. -/
def Path.LeadsThrough (p : Path) (cwd place : Location) : Prop :=
  ∃ way, way <+: p.segments ∧ (⟨p.root, way⟩ : Path).locate cwd = place

namespace Disk

/-- The contents of the file at a place, if a file stands there. -/
def file? (d : Disk) (place : Location) : Option ByteArray :=
  match d.node? place with
  | some (.file contents) => some contents
  | _ => none

/-- No file is changed, made or lost outside `places`. -/
def KeepsOutside (places : List Location) (d d' : Disk) : Prop :=
  ∀ place, place ∉ places → d'.file? place = d.file? place

/-- What stood at a place still does, unless it was nothing and a directory was made there on the way
to where a path leads. -/
def KeptOrMade (p : Path) (cwd : Location) (d d' : Disk) (place : Location) : Prop :=
  d'.node? place = d.node? place ∨
    d.node? place = none ∧ d'.node? place = some .directory ∧ p.LeadsThrough cwd place

/-- Outside `places` nothing is changed, but that directories are made on the way. -/
def OnlyMakesWay (p : Path) (cwd : Location) (places : List Location) (d d' : Disk) : Prop :=
  ∀ place, place ∉ places → KeptOrMade p cwd d d' place

variable {d d' d'' : Disk} {cwd : Location} {p : Path} {contents : ByteArray}

theorem OnlyMakesWay.trans_node? {places places' : List Location}
    (h : OnlyMakesWay p cwd places d d') (hsub : places ⊆ places')
    (hnode : ∀ place, place ∉ places' → d''.node? place = d'.node? place) :
    OnlyMakesWay p cwd places' d d'' := by
  intro place hplace
  rw [KeptOrMade, hnode place hplace]
  exact h place fun hmem => hplace (hsub hmem)

theorem node?_put {place : Location} (h : place ≠ []) (d : Disk) (node : Node) (q : Location) :
    (d.put place node).node? q = if q = place then some node else d.node? q := by
  by_cases hq : q = []
  · have hne : q ≠ place := fun heq => h (heq ▸ hq)
    rw [node?, node?, if_pos hq, if_pos hq, if_neg hne]
  · rw [node?, node?, if_neg hq, if_neg hq]
    exact Association.lookup_assign place q node d.entries

theorem put_put (d : Disk) (place : Location) (node node' : Node) :
    (d.put place node').put place node = d.put place node := by
  rw [put, put, put, Association.assign_assign]

theorem file?_put_file {place : Location} (h : place ≠ []) (d : Disk) (contents : ByteArray)
    (q : Location) :
    (d.put place (.file contents)).file? q
      = if q = place then some contents else d.file? q := by
  rw [file?, node?_put h]
  by_cases hq : q = place
  · rw [if_pos hq, if_pos hq]
  · rw [if_neg hq, if_neg hq, file?]

theorem ne_nil_of_node?_ne {place : Location} (h : d.node? place ≠ some .directory) :
    place ≠ [] := by
  rintro rfl
  exact h (if_pos rfl)

/-! ## Following a path -/

theorem eq_follow_of_walk {place found : Location} {steps : List Segment}
    (h : d.walk place steps = .ok found) : found = place.follow steps := by
  induction steps generalizing place with
  | nil =>
    rw [walk] at h
    split at h
    · cases h
    · cases h
      rfl
  | cons step rest ih =>
    obtain ⟨_, -, h⟩ := bind_eq_ok_iff.mp h
    exact ih h

/-- A path that can be followed leads to the place that it denotes. -/
theorem find_eq_ok {found : Location} (h : d.find cwd p = .ok found) : found = p.locate cwd :=
  eq_follow_of_walk h

/-- What can be entered in the first disk can be entered in the second. -/
structure Accessible (d d' : Disk) : Prop where
  denied : d'.denied = d.denied
  directory : ∀ place, d.node? place = some .directory → d'.node? place = some .directory

namespace Accessible

theorem refl (d : Disk) : Accessible d d := ⟨rfl, fun _ h => h⟩

theorem trans (h : Accessible d d') (h' : Accessible d' d'') : Accessible d d'' :=
  ⟨h'.denied.trans h.denied, fun place hp => h'.directory place (h.directory place hp)⟩

theorem enter (h : Accessible d d') {place : Location} (he : d.enter place = .ok ()) :
    d'.enter place = .ok () := by
  rw [Disk.enter] at he ⊢
  rw [h.denied]
  split at he
  · cases he
  · next hd =>
    rw [if_neg hd]
    split at he
    · cases he
    · cases he
    · next hnode => rw [h.directory place hnode]

theorem walk (h : Accessible d d') {place found : Location} {steps : List Segment}
    (hw : d.walk place steps = .ok found) : d'.walk place steps = .ok found := by
  induction steps generalizing place with
  | nil =>
    rw [Disk.walk] at hw ⊢
    rw [h.denied]
    exact hw
  | cons step rest ih =>
    obtain ⟨⟨⟩, he, hw⟩ := bind_eq_ok_iff.mp hw
    exact bind_eq_ok_iff.mpr ⟨(), h.enter he, ih hw⟩

theorem find (h : Accessible d d') {found : Location} (hf : d.find cwd p = .ok found) :
    d'.find cwd p = .ok found := h.walk hf

end Accessible

/-- A file is read where its path leads. -/
theorem read_eq_ok_iff : d.read cwd p = .ok contents ↔
    p.hasNull = false ∧ d.find cwd p = .ok (p.locate cwd) ∧
      d.file? (p.locate cwd) = some contents := by
  rw [read, file?]
  constructor
  · intro h
    split at h
    · cases h
    · next hn =>
      split at h
      · next found haccess =>
        cases h
        obtain ⟨place, hf, hnode⟩ := bind_eq_ok_iff.mp haccess
        obtain rfl := find_eq_ok hf
        split at hnode
        · next hsome =>
          cases hnode
          exact ⟨by simpa using hn, hf, by rw [hsome]⟩
        · cases hnode
      · cases h
      · cases h
  · rintro ⟨hn, hf, h⟩
    split at h
    · next hnode =>
      cases h
      have haccess : d.access cwd p = .ok (.file contents) :=
        bind_eq_ok_iff.mpr ⟨_, hf, by simp only [hnode]⟩
      rw [hn, haccess]
      rfl
    · cases h

/-- A file that is left alone is read as before, as long as the way to it is open. -/
theorem Accessible.read (h : Accessible d d')
    (hfile : d'.file? (p.locate cwd) = d.file? (p.locate cwd))
    (hread : d.read cwd p = .ok contents) : d'.read cwd p = .ok contents := by
  obtain ⟨hn, hf, hcontents⟩ := read_eq_ok_iff.mp hread
  exact read_eq_ok_iff.mpr ⟨hn, h.find hf, hfile.trans hcontents⟩

/-! ## Writing a file -/

/-- A file can be opened where the path leads. -/
structure CanOpen (d : Disk) (cwd : Location) (p : Path) : Prop where
  hasNull : p.hasNull = false
  find : d.find cwd p = .ok (p.locate cwd)
  node : d.node? (p.locate cwd) ≠ some .directory

/-- And there is room for whatever is written to it. -/
structure CanWrite (d : Disk) (cwd : Location) (p : Path) : Prop extends CanOpen d cwd p where
  room : d.full.lookup (p.locate cwd) = none

theorem CanOpen.openFile (h : d.CanOpen cwd p) :
    d.openFile cwd p = .ok (p.locate cwd, d.put (p.locate cwd) (.file .empty)) := by
  have hnode := h.node
  rw [Disk.openFile, h.hasNull, h.find]
  simp only [Bool.false_eq_true, if_false]

theorem openFile_of_not (h : ¬ d.CanOpen cwd p) :
    ∃ e, e ≠ .noSpace ∧ d.openFile cwd p = .error e := by
  rw [openFile]
  split
  · exact ⟨_, by nofun, rfl⟩
  · next hnull =>
    split
    · exact ⟨_, by nofun, rfl⟩
    · next place hfind =>
      obtain rfl := find_eq_ok hfind
      split
      · exact ⟨_, by nofun, rfl⟩
      · next hnode => exact absurd ⟨by simpa using hnull, hfind, hnode⟩ h

theorem CanOpen.write (h : d.CanOpen cwd p) (contents : ByteArray) :
    d.write cwd p contents = match d.full.lookup (p.locate cwd) with
      | none => (d.put (p.locate cwd) (.file contents), none)
      | some room => (d.put (p.locate cwd) (.file (contents.extract 0 room)), some .noSpace) := by
  rw [Disk.write, h.openFile]
  simp only [put_put]
  rfl

/-- A file that is written is not opened, or it is written in full, or there is no room for it. -/
theorem write_cases (d : Disk) (cwd : Location) (p : Path) (contents : ByteArray) :
    (∃ e, e ≠ .noSpace ∧ d.write cwd p contents = (d, some e)) ∨
      (d.CanWrite cwd p ∧
        d.write cwd p contents = (d.put (p.locate cwd) (.file contents), none)) ∨
      ∃ room, d.CanOpen cwd p ∧ d.full.lookup (p.locate cwd) = some room ∧
        d.write cwd p contents
          = (d.put (p.locate cwd) (.file (contents.extract 0 room)), some .noSpace) := by
  by_cases hopen : d.CanOpen cwd p
  · rw [hopen.write]
    cases hroom : d.full.lookup (p.locate cwd) with
    | none => exact .inr (.inl ⟨⟨hopen, hroom⟩, rfl⟩)
    | some room => exact .inr (.inr ⟨room, hopen, rfl, rfl⟩)
  · obtain ⟨e, he, hopen⟩ := openFile_of_not hopen
    rw [write, hopen]
    exact .inl ⟨e, he, rfl⟩

theorem CanWrite.write (h : d.CanWrite cwd p) (contents : ByteArray) :
    d.write cwd p contents = (d.put (p.locate cwd) (.file contents), none) := by
  rw [h.toCanOpen.write, h.room]

theorem write_eq_none_iff : d.write cwd p contents = (d', none) ↔
    d.CanWrite cwd p ∧ d' = d.put (p.locate cwd) (.file contents) := by
  constructor
  · intro h
    rcases write_cases d cwd p contents with ⟨e, -, heq⟩ | ⟨hcan, heq⟩ | ⟨room, -, -, heq⟩
    · rw [heq] at h
      cases h
    · rw [heq] at h
      cases h
      exact ⟨hcan, rfl⟩
    · rw [heq] at h
      cases h
  · rintro ⟨hcan, rfl⟩
    exact hcan.write contents

/-- A file that cannot be opened is left alone. -/
theorem write_eq_of_ne_noSpace {e : Error} (h : d.write cwd p contents = (d', some e))
    (he : e ≠ .noSpace) : d' = d := by
  rcases write_cases d cwd p contents with ⟨_, -, heq⟩ | ⟨-, heq⟩ | ⟨room, -, -, heq⟩
  · rw [heq] at h
    cases h
    rfl
  · rw [heq] at h
    cases h
  · rw [heq] at h
    cases h
    exact absurd rfl he

/-- **However it ends, all that writing a file does is to put a file where the path leads.** -/
theorem write_induction {P : Disk → Prop} (hd : P d)
    (hput : d.CanOpen cwd p → ∀ bytes, P (d.put (p.locate cwd) (.file bytes))) :
    P (d.write cwd p contents).1 := by
  rcases write_cases d cwd p contents with ⟨e, -, heq⟩ | ⟨hcan, heq⟩ | ⟨room, hopen, -, heq⟩
  · rw [heq]
    exact hd
  · rw [heq]
    exact hput hcan.toCanOpen _
  · rw [heq]
    exact hput hopen _

theorem node?_write_of_ne (d : Disk) (cwd : Location) (p : Path) (contents : ByteArray)
    {q : Location} (hq : q ≠ p.locate cwd) :
    (d.write cwd p contents).1.node? q = d.node? q := by
  refine write_induction (P := fun disk => disk.node? q = d.node? q) rfl fun hopen bytes => ?_
  rw [node?_put (ne_nil_of_node?_ne hopen.node), if_neg hq]

theorem node?_write (h : d.write cwd p contents = (d', none)) (q : Location) :
    d'.node? q = if q = p.locate cwd then some (.file contents) else d.node? q := by
  obtain ⟨hcan, rfl⟩ := write_eq_none_iff.mp h
  exact node?_put (ne_nil_of_node?_ne hcan.node) d _ q

theorem file?_write (h : d.write cwd p contents = (d', none)) (q : Location) :
    d'.file? q = if q = p.locate cwd then some contents else d.file? q := by
  obtain ⟨hcan, rfl⟩ := write_eq_none_iff.mp h
  exact file?_put_file (ne_nil_of_node?_ne hcan.node) d contents q

theorem CanOpen.accessible_put (h : d.CanOpen cwd p) (bytes : ByteArray) :
    Accessible d (d.put (p.locate cwd) (.file bytes)) := by
  refine ⟨rfl, fun q hq => ?_⟩
  rw [node?_put (ne_nil_of_node?_ne h.node), if_neg, hq]
  rintro rfl
  exact h.node hq

theorem accessible_write {e : Option Error} (h : d.write cwd p contents = (d', e)) :
    Accessible d d' := by
  have hleft : Accessible d (d.write cwd p contents).1 :=
    write_induction (.refl d) fun hopen bytes => hopen.accessible_put bytes
  rwa [h] at hleft

theorem CanOpen.read_put (h : d.CanOpen cwd p) (bytes : ByteArray) :
    (d.put (p.locate cwd) (.file bytes)).read cwd p = .ok bytes := by
  refine read_eq_ok_iff.mpr ⟨h.hasNull, (h.accessible_put bytes).find h.find, ?_⟩
  rw [file?_put_file (ne_nil_of_node?_ne h.node), if_pos rfl]

theorem read_write (h : d.write cwd p contents = (d', none)) : d'.read cwd p = .ok contents := by
  obtain ⟨hcan, rfl⟩ := write_eq_none_iff.mp h
  exact hcan.read_put contents

/-- What can be read can be opened. -/
theorem canOpen_of_read (h : d.read cwd p = .ok contents) : d.CanOpen cwd p := by
  obtain ⟨hnull, hfind, hfile⟩ := read_eq_ok_iff.mp h
  refine ⟨hnull, hfind, fun hdirectory => ?_⟩
  rw [file?, hdirectory] at hfile
  cases hfile

/-- The disk with texts put at the places of files, in order. -/
def putFiles (d : Disk) (cwd : Location) (files : List (Path × String)) : Disk :=
  files.foldl (fun d file => d.put (file.1.locate cwd) (.file file.2.toUTF8)) d

theorem putFiles_append (d : Disk) (cwd : Location) (xs ys : List (Path × String)) :
    d.putFiles cwd (xs ++ ys) = (d.putFiles cwd xs).putFiles cwd ys :=
  List.foldl_append

/-! ## Making directories -/

theorem makeDirectory_eq_ok_iff : d.makeDirectory cwd p = .ok d' ↔
    p.hasNull = false ∧ d.find cwd p = .ok (p.locate cwd) ∧
      d.node? (p.locate cwd) = none ∧ d' = d.put (p.locate cwd) .directory := by
  constructor
  · intro h
    rw [makeDirectory] at h
    split at h
    · cases h
    · next hn =>
      split at h
      · cases h
      · next place hf =>
        obtain rfl := find_eq_ok hf
        split at h
        · cases h
        · next hnode =>
          cases h
          exact ⟨by simpa using hn, hf, hnode, rfl⟩
  · rintro ⟨hn, hf, hnode, rfl⟩
    rw [makeDirectory, hn, hf]
    simp only [Bool.false_eq_true, if_false, hnode]

theorem node?_makeDirectory (h : d.makeDirectory cwd p = .ok d') (q : Location) :
    d'.node? q = if q = p.locate cwd then some .directory else d.node? q := by
  obtain ⟨-, -, hnone, rfl⟩ := makeDirectory_eq_ok_iff.mp h
  have hne : p.locate cwd ≠ [] := ne_nil_of_node?_ne fun hdir => by rw [hnone] at hdir; cases hdir
  exact node?_put hne d _ q

theorem file?_makeDirectory (h : d.makeDirectory cwd p = .ok d') (q : Location) :
    d'.file? q = d.file? q := by
  obtain ⟨-, -, hnone, -⟩ := makeDirectory_eq_ok_iff.mp h
  rw [file?, file?, node?_makeDirectory h]
  by_cases hq : q = p.locate cwd
  · rw [if_pos hq, hq, hnone]
  · rw [if_neg hq]

theorem accessible_makeDirectory (h : d.makeDirectory cwd p = .ok d') : Accessible d d' := by
  refine ⟨?_, fun q hq => ?_⟩
  · obtain ⟨-, -, -, rfl⟩ := makeDirectory_eq_ok_iff.mp h
    rfl
  · rw [node?_makeDirectory h]
    split
    · rfl
    · exact hq

theorem toleratePresent_fst (d : Disk) (cwd : Location) (p : Path) (e : Error) :
    (d.toleratePresent cwd p e).1 = d := by
  unfold toleratePresent
  split <;> rfl

/-- Directories are made one at a time, each on the way to the last one, so what making those keeps is
kept. -/
theorem makeDirectoriesAlong_induction {P : Disk → Prop} (root : Root) (segments : List Segment)
    (hstep : ∀ {d d' : Disk} {way : List Segment}, way <+: segments.reverse →
      d.makeDirectory cwd ⟨root, way⟩ = .ok d' → P d → P d')
    (hd : P d) : P (d.makeDirectoriesAlong cwd root segments).1 := by
  induction segments with
  | nil =>
    rw [makeDirectoriesAlong]
    split
    · next h => exact hstep List.nil_prefix h hd
    · exact hd
    · rw [toleratePresent_fst]
      exact hd
  | cons last before ih =>
    have hwhole {d d' : Disk} (h : d.makeDirectory cwd ⟨root, (last :: before).reverse⟩ = .ok d')
        (hd : P d) : P d' := hstep (List.prefix_refl _) h hd
    have hparent : P (d.makeDirectoriesAlong cwd root before).1 := by
      refine ih fun hway h hd => hstep (hway.trans ?_) h hd
      rw [List.reverse_cons]
      exact List.prefix_append _ _
    rw [makeDirectoriesAlong]
    split
    · next h => exact hwhole h hd
    · split
      · next h =>
        rw [h] at hparent
        exact hparent
      · next made h =>
        rw [h] at hparent
        split
        · next h' => exact hwhole h' hparent
        · exact hparent
        · rw [toleratePresent_fst]
          exact hparent
    · rw [toleratePresent_fst]
      exact hd

/-- **Making a directory changes nothing but the places on the way where nothing stood**, also when it
fails. -/
theorem onlyMakesWay_makeDirectories (d : Disk) (cwd : Location) (p : Path) :
    d.OnlyMakesWay p cwd [] (d.makeDirectories cwd p).1 := by
  intro q _
  refine makeDirectoriesAlong_induction (P := fun made => KeptOrMade p cwd d made q) _ _ ?_
    (.inl rfl)
  intro made _ way hway hmake hd
  rw [List.reverse_reverse] at hway
  rw [KeptOrMade] at hd ⊢
  rw [node?_makeDirectory hmake]
  split
  · next hq =>
    have hnone : made.node? q = none := by
      rw [hq]
      exact (makeDirectory_eq_ok_iff.mp hmake).2.2.1
    rw [hnone] at hd
    rcases hd with hd | ⟨-, hd, -⟩
    · exact .inr ⟨hd.symm, rfl, way, hway, hq.symm⟩
    · cases hd
  · exact hd

/-- Directories may be made on the way to a failure, but files stay what they are. -/
theorem file?_makeDirectories (d : Disk) (cwd : Location) (p : Path) (q : Location) :
    (d.makeDirectories cwd p).1.file? q = d.file? q := by
  refine makeDirectoriesAlong_induction (P := fun made => made.file? q = d.file? q) _ _ ?_ rfl
  intro _ _ _ _ h hd
  exact (file?_makeDirectory h q).trans hd

theorem full_makeDirectories (d : Disk) (cwd : Location) (p : Path) :
    (d.makeDirectories cwd p).1.full = d.full := by
  refine makeDirectoriesAlong_induction (P := fun made => made.full = d.full) _ _ ?_ rfl
  intro _ _ _ _ h hd
  obtain ⟨-, -, -, rfl⟩ := makeDirectory_eq_ok_iff.mp h
  exact hd

theorem accessible_makeDirectories (d : Disk) (cwd : Location) (p : Path) :
    Accessible d (d.makeDirectories cwd p).1 := by
  refine makeDirectoriesAlong_induction (P := Accessible d) _ _ ?_ (.refl d)
  intro _ _ _ _ h hd
  exact hd.trans (accessible_makeDirectory h)

end Disk

end CMakeGen
