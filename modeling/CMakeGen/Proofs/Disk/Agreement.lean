import CMakeGen.Proofs.Disk.Tree

/-!
# Disks that differ in some files only

What a row of writes does is told by the files that are put in place (`putFiles`). If each of them can
be written on the disk as it was before the first one (`CanWrite`), then each can be written when its
turn comes, in any order, since the disks in between differ in those files alone (`AgreesOutside`).

**Files at places of their own can be put in any order** (`node?_putFiles_congr`), **and once more**
(`putFiles_eq_self`). To make a directory that is there changes nothing either
(`makeDirectories_eq_self`).
-/

namespace CMakeGen.Disk

variable {d d' d'' : Disk} {cwd : Location} {p : Path} {places : List Location}
  {files files' : List (Path × String)}

/-- The disks have the same directories and, outside `places`, the same files, and there is room at
the same places. -/
structure AgreesOutside (places : List Location) (d d' : Disk) : Prop where
  forth : Accessible d d'
  back : Accessible d' d
  full : d'.full = d.full
  files : d.KeepsOutside places d'

theorem AgreesOutside.refl (places : List Location) (d : Disk) : AgreesOutside places d d :=
  ⟨.refl d, .refl d, rfl, fun _ _ => rfl⟩

theorem AgreesOutside.trans (h : AgreesOutside places d d') (h' : AgreesOutside places d' d'') :
    AgreesOutside places d d'' where
  forth := h.forth.trans h'.forth
  back := h'.back.trans h.back
  full := h'.full.trans h.full
  files place hplace := (h'.files place hplace).trans (h.files place hplace)

theorem AgreesOutside.mono (h : AgreesOutside places d d') {places' : List Location}
    (hsub : places ⊆ places') : AgreesOutside places' d d' :=
  ⟨h.forth, h.back, h.full, fun place hplace => h.files place fun hmem => hplace (hsub hmem)⟩

theorem AgreesOutside.put {place : Location} (hplace : place ∈ places)
    (hnode : d.node? place ≠ some .directory) (contents : ByteArray) :
    AgreesOutside places d (d.put place (.file contents)) := by
  have hput := node?_put (ne_nil_of_node?_ne hnode) d (.file contents)
  refine ⟨⟨rfl, fun q hq => ?_⟩, ⟨rfl, fun q hq => ?_⟩, rfl, fun q hq => ?_⟩
  · rwa [hput, if_neg]
    rintro rfl
    exact hnode hq
  · rw [hput] at hq
    split at hq
    · cases hq
    · exact hq
  · rw [file?_put_file (ne_nil_of_node?_ne hnode), if_neg]
    rintro rfl
    exact hq hplace

/-! ## Files that can be written -/

theorem CanWrite.of_accessible (h : d.CanWrite cwd p) (hforth : Accessible d d')
    (hback : Accessible d' d) (hfull : d'.full = d.full) : d'.CanWrite cwd p where
  hasNull := h.hasNull
  find := hforth.find h.find
  node hdirectory := h.node (hback.directory _ hdirectory)
  room := by rw [hfull, h.room]

theorem AgreesOutside.canWrite_iff (h : AgreesOutside places d d') :
    d'.CanWrite cwd p ↔ d.CanWrite cwd p :=
  ⟨fun hw => hw.of_accessible h.back h.forth h.full.symm,
    fun hw => hw.of_accessible h.forth h.back h.full⟩

/-! ## Putting files -/

theorem putFiles_cons (d : Disk) (cwd : Location) (file : Path × String)
    (rest : List (Path × String)) :
    d.putFiles cwd (file :: rest)
      = (d.put (file.1.locate cwd) (.file file.2.toUTF8)).putFiles cwd rest :=
  rfl

/-- Files that can be written leave the rest of the disk as it is. -/
theorem AgreesOutside.putFiles
    (hfiles : ∀ file ∈ files, d.CanWrite cwd file.1 ∧ file.1.locate cwd ∈ places) :
    AgreesOutside places d (d.putFiles cwd files) := by
  induction files generalizing d with
  | nil => exact .refl places d
  | cons file rest ih =>
    obtain ⟨⟨hfile, hplace⟩, hrest⟩ := List.forall_mem_cons.mp hfiles
    have hput := AgreesOutside.put hplace hfile.node file.2.toUTF8
    rw [putFiles_cons]
    refine hput.trans (ih fun other hother => ?_)
    rw [hput.canWrite_iff]
    exact hrest other hother

section

variable (htop : ∀ file ∈ files, file.1.locate cwd ≠ [])

include htop

theorem node?_putFiles_of_not_mem {place : Location}
    (h : place ∉ files.map (·.1.locate cwd)) :
    (d.putFiles cwd files).node? place = d.node? place := by
  induction files generalizing d with
  | nil => rfl
  | cons file rest ih =>
    obtain ⟨hfile, hrest⟩ := List.forall_mem_cons.mp htop
    rw [List.map_cons, List.mem_cons, not_or] at h
    rw [putFiles_cons, ih hrest h.2, node?_put hfile, if_neg h.1]

/-- A file at a place of its own is there when all are put. -/
theorem node?_putFiles_of_mem (hnodup : (files.map (·.1.locate cwd)).Nodup) {file : Path × String}
    (h : file ∈ files) :
    (d.putFiles cwd files).node? (file.1.locate cwd) = some (.file file.2.toUTF8) := by
  induction files generalizing d with
  | nil => cases h
  | cons first rest ih =>
    obtain ⟨hfirst, hrest⟩ := List.forall_mem_cons.mp htop
    rw [List.map_cons, List.nodup_cons] at hnodup
    rw [putFiles_cons]
    rcases List.mem_cons.mp h with rfl | h
    · rw [node?_putFiles_of_not_mem hrest hnodup.1, node?_put hfirst, if_pos rfl]
    · exact ih hrest hnodup.2 h

/-- **What stands at a place depends on the file that is put there and not on the order.** -/
theorem node?_putFiles_congr (htop' : ∀ file ∈ files', file.1.locate cwd ≠ [])
    (hnodup : (files.map (·.1.locate cwd)).Nodup) (hnodup' : (files'.map (·.1.locate cwd)).Nodup)
    {place : Location}
    (h : ∀ file : Path × String, file.1.locate cwd = place → (file ∈ files ↔ file ∈ files')) :
    (d.putFiles cwd files).node? place = (d.putFiles cwd files').node? place := by
  by_cases hplace : place ∈ files.map (·.1.locate cwd)
  · obtain ⟨file, hfile, rfl⟩ := List.mem_map.mp hplace
    rw [node?_putFiles_of_mem htop hnodup hfile,
      node?_putFiles_of_mem htop' hnodup' ((h file rfl).mp hfile)]
  · rw [node?_putFiles_of_not_mem htop hplace, node?_putFiles_of_not_mem htop' fun hmem => ?_]
    obtain ⟨file, hfile, rfl⟩ := List.mem_map.mp hmem
    exact hplace (List.mem_map_of_mem ((h file rfl).mpr hfile))

end

theorem put_eq_self {place : Location} (htop : place ≠ []) {node : Node}
    (h : d.node? place = some node) : d.put place node = d := by
  rw [node?, if_neg htop] at h
  rw [put, Association.assign_eq_self h]

/-- To put what is there changes nothing. -/
theorem putFiles_eq_self
    (h : ∀ file ∈ files, d.node? (file.1.locate cwd) = some (.file file.2.toUTF8)) :
    d.putFiles cwd files = d := by
  induction files with
  | nil => rfl
  | cons file rest ih =>
    obtain ⟨hfile, hrest⟩ := List.forall_mem_cons.mp h
    have htop : file.1.locate cwd ≠ [] := by
      refine ne_nil_of_node?_ne (d := d) ?_
      rw [hfile]
      exact fun hdirectory => by cases hdirectory
    rw [putFiles_cons, put_eq_self htop hfile, ih hrest]

/-! ## Directories that are there -/

theorem Accessible.isDirectory (h : Accessible d d') (hd : d.isDirectory cwd p = .ok true) :
    d'.isDirectory cwd p = .ok true := by
  rw [isDirectory_eq_true_iff] at hd ⊢
  exact ⟨hd.1, h.find hd.2.1, h.directory _ hd.2.2⟩

theorem makeDirectory_of_isDirectory (h : d.isDirectory cwd p = .ok true) :
    d.makeDirectory cwd p = .error (.fault .present p) := by
  obtain ⟨hnull, hfind, hnode⟩ := isDirectory_eq_true_iff.mp h
  rw [makeDirectory, hnull, hfind]
  simp only [Bool.false_eq_true, if_false, hnode]

theorem makeDirectories_eq_self (h : d.isDirectory cwd p = .ok true) :
    d.makeDirectories cwd p = (d, none) := by
  have halong {root : Root} {segments : List Segment}
      (h : d.isDirectory cwd ⟨root, segments.reverse⟩ = .ok true) :
      d.makeDirectoriesAlong cwd root segments = (d, none) := by
    cases segments with
    | nil =>
      have hpresent := makeDirectory_of_isDirectory h
      rw [List.reverse_nil] at h hpresent
      simp only [makeDirectoriesAlong, hpresent, toleratePresent, h]
    | cons last before =>
      simp only [makeDirectoriesAlong, makeDirectory_of_isDirectory h, toleratePresent, h]
  refine halong ?_
  rwa [List.reverse_reverse]

theorem isDirectory_of_makeDirectory (h : d.makeDirectory cwd p = .ok d') :
    d'.isDirectory cwd p = .ok true := by
  have hfind := (accessible_makeDirectory h).find (p := p) (makeDirectory_eq_ok_iff.mp h).2.1
  obtain ⟨hnull, -, hnone, rfl⟩ := makeDirectory_eq_ok_iff.mp h
  have htop : p.locate cwd ≠ [] := ne_nil_of_node?_ne fun hdir => by rw [hnone] at hdir; cases hdir
  refine isDirectory_eq_true_iff.mpr ⟨hnull, hfind, ?_⟩
  rw [node?_put htop, if_pos rfl]

theorem isDirectory_of_toleratePresent {e : Error} {made : Disk}
    (h : d.toleratePresent cwd p e = (made, none)) : made.isDirectory cwd p = .ok true := by
  unfold toleratePresent at h
  split at h
  · next hdirectory =>
    cases h
    exact hdirectory
  · cases h

/-- A directory that was made is there. -/
theorem isDirectory_of_makeDirectories {made : Disk}
    (h : d.makeDirectories cwd p = (made, none)) : made.isDirectory cwd p = .ok true := by
  have halong {root : Root} {segments : List Segment}
      (h : d.makeDirectoriesAlong cwd root segments = (made, none)) :
      made.isDirectory cwd ⟨root, segments.reverse⟩ = .ok true := by
    cases segments with
    | nil =>
      rw [makeDirectoriesAlong] at h
      split at h
      · next hmade =>
        cases h
        exact isDirectory_of_makeDirectory hmade
      · cases h
      · exact isDirectory_of_toleratePresent h
    | cons last before =>
      rw [makeDirectoriesAlong] at h
      split at h
      · next hmade =>
        cases h
        exact isDirectory_of_makeDirectory hmade
      · split at h
        · cases h
        · split at h
          · next hmade =>
            cases h
            exact isDirectory_of_makeDirectory hmade
          · cases h
          · exact isDirectory_of_toleratePresent h
      · exact isDirectory_of_toleratePresent h
  have hmade := halong h
  rwa [List.reverse_reverse] at hmade

end CMakeGen.Disk
