import CMakeGen.FileSystem
import Mathlib.Data.List.Basic

/-!
# Going relative and coming back

A path that is made relative to a directory, joined to the directory and made absolute **denotes what
it denoted before** (`absolute_join_relativeTo`), whatever climbs are in it. An absolute form is a
place and a root (`absoluteFrom`), so the argument is about places: joining follows steps from a
place, and the way from one place to another leads there (`Location.follow_pathTo`).

Two leading slashes are kept apart from one, and a relative path has no way to say which of them it
started from. So they are asked to be absent, from the directory and from the target.
-/

namespace CMakeGen

namespace Path

/-- The absolute form of a path that is read in `cwd`: the names that lead to it from the top. -/
def absoluteFrom (p : Path) (cwd : Location) : Path :=
  ⟨if p.root = .double then .double else .single, (p.locate cwd).map .name⟩

/-- What is joined to a path is followed from where the path leads. -/
theorem locate_join {q : Path} (h : q.root = .relative) (p : Path) (cwd : Location) :
    (p.join q).locate cwd = (p.locate cwd).follow q.segments := by
  obtain ⟨root, segments⟩ := p
  rw [join, if_pos h, locate, locate, ← Location.follow_append]
  cases root with
  | relative => rw [steps, steps, List.append_assoc]
  | single => rfl
  | double => rfl

theorem locate_relative {p : Path} (h : p.root = .relative) (cwd : Location) :
    p.locate cwd = cwd.follow p.segments := by
  obtain ⟨root, segments⟩ := p
  obtain rfl : root = .relative := h
  show Location.follow [] (cwd.map .name ++ segments) = _
  rw [Location.follow_append, Location.follow_map_name, List.nil_append]

/-- A path that is joined to another is read where the other leads. -/
theorem locate_join_eq (p q : Path) (cwd : Location) :
    (p.join q).locate cwd = q.locate (p.locate cwd) := by
  by_cases h : q.root = .relative
  · rw [locate_join h, locate_relative h]
  · obtain ⟨root, segments⟩ := q
    rw [join, if_neg h]
    cases root with
    | relative => exact absurd rfl h
    | single | double => rfl

/-- Three paths are joined in one way. -/
theorem join_assoc (p q r : Path) : (p.join q).join r = p.join (q.join r) := by
  by_cases hr : r.root = .relative
  · by_cases hq : q.root = .relative <;> simp [join, hr, hq]
  · simp [join, hr]

@[simp] theorem join_here (p : Path) : p.join .here = p := by
  show Path.mk p.root (p.segments ++ []) = p
  rw [List.append_nil]

theorem root_join (p q : Path) :
    (p.join q).root = if q.root = .relative then p.root else q.root := by
  rw [join]
  split <;> rfl

theorem root_join_relative {q : Path} (h : q.root = .relative) (p : Path) :
    (p.join q).root = p.root := by
  rw [root_join, if_pos h]

theorem root_join_ne_double {p q : Path} (hp : p.root ≠ .double) (hq : q.root ≠ .double) :
    (p.join q).root ≠ .double := by
  rw [root_join]
  split
  · exact hp
  · exact hq

/-- Places are told apart by the paths that are written for them. -/
theorem eq_of_toString_eq {root root' : Root} {place place' : Location}
    (h : Path.toString ⟨root, place.map .name⟩ = Path.toString ⟨root', place'.map .name⟩) :
    place = place' := by
  have hpath := congrArg Path.ofString h
  rw [ofString_toString, ofString_toString, Path.mk.injEq] at hpath
  exact List.map_injective_iff.mpr (fun _ _ hname => Segment.name.inj hname) hpath.2

/-- A path that starts with `./` is read as if it did not, and is relative. -/
theorem ofString_dotSlash (text : String) :
    ofString ("./" ++ text) = ⟨.relative, (ofString text).segments⟩ := by
  have hlist : ("./" ++ text).toList = ['.'] ++ '/' :: text.toList := by
    rw [String.toList_append]
    rfl
  have hdot : (Segment.ofString? ∘ String.ofList) ['.'] = none := by decide
  rw [ofString, hlist, Text.splitOn_append (by decide), List.filterMap_cons_none hdot]
  rfl

end Path

/-! ## Paths from the top -/

namespace Path

variable {p : Path}

theorem steps_absolute (h : p.root ≠ .relative) (cwd cwd' : Location) :
    p.steps cwd = p.steps cwd' := by
  obtain ⟨root, segments⟩ := p
  cases root with
  | relative => exact absurd rfl h
  | single => rfl
  | double => rfl

theorem locate_absolute (h : p.root ≠ .relative) (cwd cwd' : Location) :
    p.locate cwd = p.locate cwd' := by
  rw [locate, locate, steps_absolute h cwd cwd']

theorem root_join_absolute (h : p.root ≠ .relative) (q : Path) : (p.join q).root ≠ .relative := by
  rw [root_join]
  split
  · exact h
  · assumption

theorem normal_absolute (h : p.root ≠ .relative) (cwd : Location) :
    p.normal = ⟨p.root, (p.locate cwd).map .name⟩ := by
  obtain ⟨root, segments⟩ := p
  cases root with
  | relative => exact absurd rfl h
  | single => rfl
  | double => rfl

/-- A path that is joined to an absolute one is read where that leads. -/
theorem locate_join_absolute (h : p.root ≠ .relative) (q : Path) (cwd : Location) :
    (p.join q).locate cwd = q.locate (p.locate []) := by
  rw [locate_join_eq, locate_absolute h cwd []]

end Path

namespace FileSystem

/-- The process reads relative paths where the questions about files do. -/
def Local (fs : FileSystem) (cwd : Location) : Prop :=
  fs.directory = none ∨ fs.directory = some cwd.toPath

variable {fs : FileSystem} {cwd : Location}

theorem Local.current_eq (h : fs.Local cwd) : fs.current cwd = cwd.toPath := by
  rcases h with h | h <;> rw [current, h] <;> rfl

/-- Whoever asks, the absolute form of a path is the one from the directory of the process. -/
theorem absolute_eq (h : fs.Local cwd) (p : Path) : fs.absolute cwd p = p.absoluteFrom cwd := by
  obtain ⟨root, segments⟩ := p
  rw [absolute, h.current_eq]
  cases root <;> rfl

/-- The way from a directory to a target, taken from the directory, leads to the target. How many
slashes are written before it is up to the directory. -/
theorem absolute_join_relativeTo_eq (h : fs.Local cwd) (target base : Path) :
    fs.absolute cwd (base.join (target.relativeTo base cwd))
      = ⟨if base.root = .double then .double else .single, (target.locate cwd).map .name⟩ := by
  have hplace : (base.join (target.relativeTo base cwd)).locate cwd = target.locate cwd := by
    rw [Path.locate_join rfl]
    exact Location.follow_pathTo _ _
  rw [absolute_eq h, Path.absoluteFrom, Path.root_join_relative rfl, hplace]

/-- **Where nothing starts with two slashes, the target itself is what comes out.** -/
theorem absolute_join_relativeTo (h : fs.Local cwd) {target base : Path}
    (htarget : target.root ≠ .double) (hbase : base.root ≠ .double) :
    fs.absolute cwd (base.join (target.relativeTo base cwd)) = target.absoluteFrom cwd := by
  rw [absolute_join_relativeTo_eq h, Path.absoluteFrom, if_neg hbase, if_neg htarget]

end FileSystem

end CMakeGen
