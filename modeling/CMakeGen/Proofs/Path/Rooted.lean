import CMakeGen.Proofs.Path.Absolute

/-!
# Paths that are read in a directory from the top

A `FileSystem` that has no directory of its own, or one that starts from the top, reads every path in
one place (`home`). What it makes absolute is then a root and the names that lead to the place which
the path denotes there (`Rooted.absolute_eq`), and what it makes relative is the way between two such
places. So following the way from the directory that it was taken from leads to the target again
(`Rooted.absolute_join_relative`).
-/

namespace CMakeGen.FileSystem

/-- A directory of its own, if there is one, starts from the top. -/
def Rooted (fs : FileSystem) : Prop := ∀ home, fs.directory = some home → home.root ≠ .relative

/-- The place that relative paths are read in. -/
def home (fs : FileSystem) (cwd : Location) : Location := (fs.current cwd).locate []

variable {fs : FileSystem} (h : fs.Rooted)

include h

theorem Rooted.root_current (cwd : Location) : (fs.current cwd).root ≠ .relative := by
  rw [current]
  cases hdirectory : fs.directory with
  | none => exact fun hroot => by cases hroot
  | some home => exact h home hdirectory

/-- **An absolute form is a root and the place that the path denotes.** -/
theorem Rooted.absolute_eq (cwd : Location) (p : Path) :
    fs.absolute cwd p
      = ⟨((fs.current cwd).join p).root, (p.locate (fs.home cwd)).map .name⟩ := by
  have hroot := h.root_current cwd
  rw [absolute, Path.normal_absolute (Path.root_join_absolute hroot p) cwd,
    Path.locate_join_absolute hroot, home]

theorem Rooted.root_absolute (cwd : Location) (p : Path) :
    (fs.absolute cwd p).root ≠ .relative := by
  rw [h.absolute_eq]
  exact Path.root_join_absolute (h.root_current cwd) p

theorem Rooted.locate_absolute (cwd cwd' : Location) (p : Path) :
    (fs.absolute cwd p).locate cwd' = p.locate (fs.home cwd) := by
  have hroot := h.root_absolute cwd p
  rw [h.absolute_eq] at hroot ⊢
  generalize ((fs.current cwd).join p).root = root at hroot ⊢
  cases root with
  | relative => exact absurd rfl hroot
  | single | double => exact (Location.follow_map_name [] _).trans (List.nil_append _)

/-- What is made relative is the way between two places. -/
theorem Rooted.relative_eq (cwd : Location) (p base : Path) :
    fs.relative cwd p base
      = ⟨.relative, (base.locate (fs.home cwd)).pathTo (p.locate (fs.home cwd))⟩ := by
  rw [relative, Path.relativeTo, h.locate_absolute, h.locate_absolute]

/-- Only a path that starts with two slashes, or is read in one, has an absolute form that does. -/
theorem Rooted.absolute_eq_toPath {cwd : Location} {p : Path}
    (hcurrent : (fs.current cwd).root ≠ .double) (hp : p.root ≠ .double) :
    fs.absolute cwd p = (p.locate (fs.home cwd)).toPath := by
  have hrelative := Path.root_join_absolute (h.root_current cwd) p
  have hdouble := Path.root_join_ne_double hcurrent hp
  rw [h.absolute_eq]
  cases hroot : ((fs.current cwd).join p).root with
  | relative => exact absurd hroot hrelative
  | single => rfl
  | double => exact absurd hroot hdouble

/-- **The way from a base to a target leads to the place of the target, under the root of the base.** -/
theorem Rooted.absolute_join_relative_eq (cwd : Location) (p base : Path) :
    fs.absolute cwd (base.join (fs.relative cwd p base))
      = ⟨(fs.absolute cwd base).root, (fs.absolute cwd p).segments⟩ := by
  have hroot : ((fs.current cwd).join (base.join (fs.relative cwd p base))).root
      = ((fs.current cwd).join base).root := by
    rw [← Path.join_assoc]
    exact Path.root_join_relative rfl _
  have hplace : (base.join (fs.relative cwd p base)).locate (fs.home cwd) = p.locate (fs.home cwd) := by
    rw [Path.locate_join rfl, h.relative_eq]
    exact Location.follow_pathTo _ _
  rw [h.absolute_eq, h.absolute_eq, h.absolute_eq, hroot, hplace]

/-- **The way from a directory to a target, joined to the directory, leads to the target.** -/
theorem Rooted.absolute_join_relative {cwd : Location} {p base : Path}
    (hcurrent : (fs.current cwd).root ≠ .double) (hp : p.root ≠ .double)
    (hbase : base.root ≠ .double) :
    fs.absolute cwd (base.join (fs.relative cwd p base)) = fs.absolute cwd p := by
  rw [h.absolute_join_relative_eq, h.absolute_eq_toPath hcurrent hp,
    h.absolute_eq_toPath hcurrent hbase]
  rfl

end CMakeGen.FileSystem
