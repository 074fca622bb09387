import CMakeGen.Proofs.Path.Rooted

/-!
# The laws of paths

What is asked of a `FileSystem` about paths is to make one absolute, to make one relative to another, and
to join two. Where relative paths are read in a directory from the top, all three are about places: an
absolute form is a root and a place, joining reads the second path at the place of the first, and a
relative form is the way between two places. The laws are read off from there (`Rooted.lawful`).

**Joining a relative form to its base gives the place of the target and the root of the base**
(`Rooted.absolute_join_relative_eq`), since a relative form cannot say whether it came from one slash or
from two. So the target itself comes back iff target and base have the same root
(`Rooted.absolute_join_relative_iff`), and two leading slashes have to be absent from all three for that
to be known beforehand.

A path that is written is read as it was (`Path.ofString_toString`), so these are laws of texts as well.
-/

namespace CMakeGen

/-- A text that leads from the top of the tree, in parts that each name an entry: none is empty, `.` or
`..`. -/
def LeadsFromTop (text : String) : Prop :=
  ∃ (root : Root) (names : List String), root ≠ .relative ∧ (∀ name ∈ names, IsFileName name) ∧
    text.toList = root.toList ++ Text.joinWith '/' (names.map String.toList)

namespace FileSystem

/-- What can be relied on when paths are read in `cwd`, or in the directory that `fs` has. -/
structure Lawful (fs : FileSystem) (cwd : Location) : Prop where
  leads_from_top : ∀ p, LeadsFromTop (fs.absolute cwd p).toString
  absolute_again : ∀ p, fs.absolute cwd (fs.absolute cwd p) = fs.absolute cwd p
  absolute_join : ∀ b p : Path,
    fs.absolute cwd (b.join p) = fs.absolute cwd ((fs.absolute cwd b).join p)
  relative_absolute : ∀ p b,
    fs.relative cwd p b = fs.relative cwd (fs.absolute cwd p) (fs.absolute cwd b)
  /-- The way from a base to a target leads from the base to the target. -/
  join_relative : (fs.current cwd).root ≠ .double → ∀ p b : Path, p.root ≠ .double →
    b.root ≠ .double → fs.absolute cwd (b.join (fs.relative cwd p b)) = fs.absolute cwd p
  /-- Targets that are told apart are told apart by the ways to them. -/
  relative_injective : (fs.current cwd).root ≠ .double → ∀ p q b : Path, p.root ≠ .double →
    q.root ≠ .double → fs.relative cwd p b = fs.relative cwd q b →
    fs.absolute cwd p = fs.absolute cwd q

variable {fs : FileSystem} (h : fs.Rooted)

include h

theorem Rooted.leadsFromTop_absolute (cwd : Location) (p : Path) :
    LeadsFromTop (fs.absolute cwd p).toString := by
  have hroot := h.root_absolute cwd p
  rw [h.absolute_eq] at hroot ⊢
  refine ⟨_, (p.locate (fs.home cwd)).map FileName.text, hroot, ?_, ?_⟩
  · intro name hname
    obtain ⟨entry, -, rfl⟩ := List.mem_map.mp hname
    exact entry.isFileName
  · rw [Path.toString, if_neg (fun hhere => hroot hhere.1), String.toList_ofList, List.map_map,
      List.map_map]
    rfl

/-- Only the root and the place of a path are left in its absolute form. -/
theorem Rooted.absolute_congr {cwd : Location} {p q : Path}
    (hroot : (fs.absolute cwd p).root = (fs.absolute cwd q).root)
    (hplace : p.locate (fs.home cwd) = q.locate (fs.home cwd)) :
    fs.absolute cwd p = fs.absolute cwd q := by
  rw [h.absolute_eq, h.absolute_eq] at hroot ⊢
  rw [show ((fs.current cwd).join p).root = ((fs.current cwd).join q).root from hroot, hplace]

theorem Rooted.absolute_absolute (cwd : Location) (p : Path) :
    fs.absolute cwd (fs.absolute cwd p) = fs.absolute cwd p := by
  apply h.absolute_congr
  · have hroot := h.root_absolute cwd p
    rw [h.absolute_eq cwd (fs.absolute cwd p)]
    exact (Path.root_join _ _).trans (if_neg hroot)
  · exact h.locate_absolute cwd _ p

theorem Rooted.absolute_join_absolute (cwd : Location) (b p : Path) :
    fs.absolute cwd (b.join p) = fs.absolute cwd ((fs.absolute cwd b).join p) := by
  apply h.absolute_congr
  · rw [h.absolute_eq cwd (b.join p), h.absolute_eq cwd ((fs.absolute cwd b).join p)]
    have hroot := h.root_absolute cwd b
    have hcurrent := congrArg Path.root (h.absolute_eq cwd b)
    simp only [Path.root_join] at hcurrent ⊢
    split <;> simp_all
  · rw [Path.locate_join_eq, Path.locate_join_eq, h.locate_absolute]

theorem Rooted.relative_absolute (cwd : Location) (p b : Path) :
    fs.relative cwd p b = fs.relative cwd (fs.absolute cwd p) (fs.absolute cwd b) := by
  rw [h.relative_eq, h.relative_eq, h.locate_absolute, h.locate_absolute]

theorem Rooted.absolute_join_relative_iff (cwd : Location) (p b : Path) :
    fs.absolute cwd (b.join (fs.relative cwd p b)) = fs.absolute cwd p ↔
      (fs.absolute cwd b).root = (fs.absolute cwd p).root := by
  rw [h.absolute_join_relative_eq]
  constructor
  · intro heq
    have hroot := congrArg Path.root heq
    exact hroot
  · intro hroot
    rw [hroot]

/-- Two targets are reached in one way from a base iff they are at one place. -/
theorem Rooted.relative_eq_iff {cwd : Location} {p q b : Path} :
    fs.relative cwd p b = fs.relative cwd q b ↔
      p.locate (fs.home cwd) = q.locate (fs.home cwd) := by
  rw [h.relative_eq, h.relative_eq]
  constructor
  · intro heq
    have hfollow := congrArg (Location.follow (b.locate (fs.home cwd)) ∘ Path.segments) heq
    simpa only [Function.comp, Location.follow_pathTo] using hfollow
  · intro hplace
    rw [hplace]

/-- **The laws hold wherever relative paths are read in a directory from the top**, whatever climbs are
in the paths, in the directory of the `FileSystem` and in the working directory. -/
theorem Rooted.lawful (cwd : Location) : fs.Lawful cwd := by
  constructor
  case leads_from_top => exact h.leadsFromTop_absolute cwd
  case absolute_again => exact h.absolute_absolute cwd
  case absolute_join => exact h.absolute_join_absolute cwd
  case relative_absolute => exact h.relative_absolute cwd
  case join_relative =>
    intro hcurrent p b hp hb
    exact h.absolute_join_relative hcurrent hp hb
  case relative_injective =>
    intro hcurrent p q b hp hq heq
    rw [h.absolute_eq_toPath hcurrent hp, h.absolute_eq_toPath hcurrent hq,
      h.relative_eq_iff.mp heq]

omit h

/-- Climbs on both sides, read in a directory that climbs itself. -/
theorem Rooted.lawful_sample :
    let fs : FileSystem := { directory := some (.ofString "/srv/../work") }
    let target := Path.ofString "lib/../../core/./a.h"
    let base := Path.ofString "../app/x/.."
    fs.Rooted ∧ fs.absolute [] (base.join (fs.relative [] target base)) = fs.absolute [] target ∧
      LeadsFromTop (fs.absolute [] target).toString := by
  intro fs target base
  have hrooted : fs.Rooted := by
    intro home hhome
    cases hhome
    decide
  exact ⟨hrooted, (Rooted.lawful hrooted []).join_relative (by decide) target base (by decide)
    (by decide), (Rooted.lawful hrooted []).leads_from_top target⟩

end FileSystem

end CMakeGen
