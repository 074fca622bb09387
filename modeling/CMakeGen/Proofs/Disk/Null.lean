import CMakeGen.Disk.Access
import CMakeGen.Proofs.Path.Ending
import CMakeGen.Proofs.Path.Written

/-!
# The character that no path can hold

The operating system ends names with U+0000 and cannot be given a path that holds it. **A path holds
it iff one of its steps does** (`hasNull_iff`), so reading a text as a path neither adds nor loses it:
the parts that are dropped are too short to hold anything.

Such a path is not refused by the operating system, which never sees it. Whatever else is wrong with
the disk, writing a file and making a directory fail for this reason **exactly for these paths**
(`write_eq_null_iff`, `makeDirectories_eq_null_iff`).
-/

namespace CMakeGen

theorem Segment.toString_of_ofString? {part : String} {s : Segment} (h : ofString? part = some s) :
    s.toString = part := by
  rw [ofString?] at h
  split at h
  · next hup =>
    cases h
    exact hup.symm
  · split at h
    · cases h
      rfl
    · cases h

/-- The parts with a meaning of their own hold dots alone. -/
theorem Segment.isFileName_of_null {part : String} (hslash : '/' ∉ part.toList)
    (h : '\x00' ∈ part.toList) : IsFileName part := by
  refine ⟨?_, ?_, ?_, hslash⟩ <;> rintro rfl <;> exact absurd h (by decide)

namespace Path

theorem hasNull_iff {p : Path} :
    p.hasNull = true ↔ ∃ s ∈ p.segments, '\x00' ∈ s.toString.toList := by
  rw [hasNull, List.contains_iff_mem, mem_toString_iff (by decide) (by decide)]

theorem hasNull_ofString {text : String} :
    (ofString text).hasNull = true ↔ '\x00' ∈ text.toList := by
  have hpieces : '\x00' ∈ text.toList ↔ ∃ piece ∈ Text.splitOn '/' text.toList, '\x00' ∈ piece := by
    rw [← Text.mem_joinWith (show '\x00' ≠ '/' by decide), Text.joinWith_splitOn]
  rw [hasNull_iff, hpieces]
  constructor
  · rintro ⟨s, hs, hnull⟩
    obtain ⟨piece, hpiece, hread⟩ := List.mem_filterMap.mp hs
    rw [Segment.toString_of_ofString? hread, String.toList_ofList] at hnull
    exact ⟨piece, hpiece, hnull⟩
  · rintro ⟨piece, hpiece, hnull⟩
    have hname : IsFileName (String.ofList piece) :=
      Segment.isFileName_of_null (by simpa using Text.not_mem_of_mem_splitOn hpiece)
        (by simpa using hnull)
    refine ⟨.name ⟨_, hname⟩, List.mem_filterMap.mpr ⟨piece, hpiece, ?_⟩, ?_⟩
    · exact Segment.ofString?_fileName hname
    · simpa [Segment.toString] using hnull

theorem hasNull_join {p q : Path} :
    (p.join q).hasNull = true ↔
      q.hasNull = true ∨ q.root = .relative ∧ p.hasNull = true := by
  rw [hasNull_iff, hasNull_iff, hasNull_iff, join]
  split
  · next h => simp [h, List.mem_append, or_and_right, exists_or, or_comm]
  · next h => simp [h]

end Path

namespace Disk

variable {d : Disk} {cwd : Location} {p : Path}

theorem openFile_eq_null_iff :
    d.openFile cwd p = .error .nullCharacter ↔ p.hasNull = true := by
  rw [openFile]
  split
  · next h => exact iff_of_true rfl h
  · next h =>
    refine iff_of_false (fun hnull => ?_) h
    split at hnull
    · cases hnull
    · split at hnull <;> cases hnull

theorem write_of_hasNull (h : p.hasNull = true) (contents : ByteArray) :
    d.write cwd p contents = (d, some .nullCharacter) := by
  rw [write, openFile_eq_null_iff.mpr h]

theorem write_eq_null_iff {contents : ByteArray} :
    (d.write cwd p contents).2 = some .nullCharacter ↔ p.hasNull = true := by
  constructor
  · intro h
    rw [write] at h
    split at h
    · next hopen =>
      rw [Option.some.inj h] at hopen
      exact openFile_eq_null_iff.mp hopen
    · split at h <;> cases h
  · intro h
    rw [write_of_hasNull h]

theorem read_eq_null_iff : d.read cwd p = .error .nullCharacter ↔ p.hasNull = true := by
  rw [read]
  split
  · next h => exact iff_of_true rfl h
  · next h =>
    refine iff_of_false (fun hnull => ?_) h
    split at hnull <;> cases hnull

/-- Nothing is at a path that the operating system cannot be given. -/
theorem hasNull_of_pathExists (h : d.pathExists cwd p = .ok true) : p.hasNull = false := by
  rw [Bool.eq_false_iff]
  intro hnull
  rw [pathExists, ask, if_pos hnull] at h
  cases h

theorem makeDirectory_eq_null_iff :
    d.makeDirectory cwd p = .error .nullCharacter ↔ p.hasNull = true := by
  rw [makeDirectory]
  split
  · next h => exact iff_of_true rfl h
  · next h =>
    refine iff_of_false (fun hnull => ?_) h
    split at hnull
    · cases hnull
    · split at hnull <;> cases hnull

theorem toleratePresent_eq_null_iff {e : Error} :
    (d.toleratePresent cwd p e).2 = some .nullCharacter ↔ e = .nullCharacter := by
  unfold toleratePresent
  split
  · exact iff_of_false (fun h => by cases h) (fun h => by cases h)
  · exact Option.some_inj

theorem makeDirectoriesAlong_ne_null {root : Root} {steps : List Segment}
    (h : Path.hasNull ⟨root, steps.reverse⟩ = false) :
    (d.makeDirectoriesAlong cwd root steps).2 ≠ some .nullCharacter := by
  have htolerate (d : Disk) {p : Path} {e : Error} (hp : p.hasNull = false)
      (he : d.makeDirectory cwd p = .error e) :
      (d.toleratePresent cwd p e).2 ≠ some .nullCharacter := by
    rw [ne_eq, toleratePresent_eq_null_iff]
    rintro rfl
    rw [makeDirectory_eq_null_iff.mp he] at hp
    cases hp
  induction steps with
  | nil =>
    rw [makeDirectoriesAlong]
    split
    · exact fun hnone => by cases hnone
    · exact fun hfault => by cases hfault
    · next he => exact htolerate d h he
  | cons last before ih =>
    -- The directories above are those of fewer steps.
    have hbefore : Path.hasNull ⟨root, before.reverse⟩ = false := by
      rw [Bool.eq_false_iff, ne_eq, Path.hasNull_iff] at h ⊢
      rintro ⟨s, hs, hnull⟩
      exact h ⟨s, by rw [List.reverse_cons]; exact List.mem_append_left _ hs, hnull⟩
    rw [makeDirectoriesAlong]
    split
    · exact fun hnone => by cases hnone
    · split
      · next e hmade =>
        have hne := ih hbefore
        rw [hmade] at hne
        exact hne
      · next made _ =>
        split
        · exact fun hnone => by cases hnone
        · exact fun hfault => by cases hfault
        · next he => exact htolerate made h he
    · next he => exact htolerate d h he

theorem makeDirectories_eq_null_iff :
    (d.makeDirectories cwd p).2 = some .nullCharacter ↔ p.hasNull = true := by
  obtain ⟨root, segments⟩ := p
  cases hnull : Path.hasNull ⟨root, segments⟩ with
  | false =>
    refine iff_of_false (makeDirectoriesAlong_ne_null ?_) (by decide)
    rw [List.reverse_reverse]
    exact hnull
  | true =>
    have hmake : d.makeDirectory cwd ⟨root, segments⟩ = .error .nullCharacter :=
      makeDirectory_eq_null_iff.mpr hnull
    refine iff_of_true ?_ rfl
    rw [makeDirectories]
    cases hsteps : segments.reverse with
    | nil =>
      obtain rfl : segments = [] := List.reverse_eq_nil_iff.mp hsteps
      rw [makeDirectoriesAlong, hmake]
      rfl
    | cons last before =>
      have hsegments : (last :: before).reverse = segments := by
        rw [← hsteps, List.reverse_reverse]
      rw [makeDirectoriesAlong, hsegments, hmake]
      rfl

end Disk

end CMakeGen
