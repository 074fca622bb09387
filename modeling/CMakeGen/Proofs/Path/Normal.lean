import CMakeGen.Proofs.Path.Absolute

/-!
# How far a path climbs

A normalised path climbs and then descends (`segments_normal`). So the place that it denotes is a
place above the one it is read in, with names behind (`locate_eq`), and which place above that is
depends on one number alone: how often it climbs, where an absolute path climbs all the way.

Going from one path to another and following that way from elsewhere (`rejoin`) is right wherever the
way was found **iff the two paths climb equally far** (`rejoin_eq_iff`), and then there is but one way
(`relativeTo_congr_iff`). For paths that do not, two directories are enough to tell the results apart.
-/

namespace CMakeGen

namespace Location

theorem follow_replicate_up (place : Location) (n : Nat) :
    place.follow (List.replicate n .up) = place.take (place.length - n) := by
  induction n generalizing place with
  | zero => rw [Nat.sub_zero, List.take_length]; rfl
  | succ n ih =>
    have hstep : place.follow (List.replicate (n + 1) .up)
        = follow place.dropLast (List.replicate n .up) := rfl
    rw [hstep, ih, List.length_dropLast, List.dropLast_eq_take, List.take_take]
    congr 1
    omega

theorem pathTo_append (shared start target : Location) :
    (shared ++ start).pathTo (shared ++ target) = start.pathTo target := by
  induction shared with
  | nil => rfl
  | cons name shared ih => rw [List.cons_append, List.cons_append, pathTo, if_pos rfl, ih]

/-- The way between two places that are in one place leads on in any other. -/
theorem follow_pathTo_append (home shared start target : Location) :
    (home ++ start).follow ((shared ++ start).pathTo (shared ++ target)) = home ++ target := by
  rw [pathTo_append, append_follow_pathTo]

end Location

def Segment.name? : Segment → Option FileName
  | .up => none
  | .name entry => some entry

namespace Path

/-! ## Normal paths -/

/-- How often a path climbs out of the place that it is read in; `none` if it starts from the top
anyway. -/
def climb (p : Path) : Option Nat :=
  if p.root = .relative then some (p.normal.segments.count .up) else none

/-- The names that a path descends into once it has climbed. -/
def names (p : Path) : Location := p.normal.segments.filterMap Segment.name?

/-- The place that a path climbs to. -/
def base (p : Path) (cwd : Location) : Location :=
  match p.climb with
  | none => []
  | some n => cwd.take (cwd.length - n)

theorem filterMap_name? (names : Location) :
    (names.map Segment.name).filterMap Segment.name? = names := by
  rw [List.filterMap_map]
  exact List.filterMap_some

theorem count_up_map_name (names : Location) : (names.map Segment.name).count .up = 0 :=
  List.count_eq_zero.mpr fun h => by
    obtain ⟨entry, -, hentry⟩ := List.mem_map.mp h
    cases hentry

/-- The steps that climb a number of times and descend into the names. -/
def detour (n : Nat) (names : Location) : List Segment :=
  List.replicate n .up ++ names.map .name

theorem count_up_detour (n : Nat) (names : Location) : (detour n names).count .up = n := by
  rw [detour, List.count_append, List.count_replicate_self, count_up_map_name, Nat.add_zero]

theorem filterMap_name?_detour (n : Nat) (names : Location) :
    (detour n names).filterMap Segment.name? = names := by
  have hups : (List.replicate n Segment.up).filterMap Segment.name? = [] :=
    List.filterMap_replicate_of_none rfl
  rw [detour, List.filterMap_append, hups, filterMap_name?, List.nil_append]

theorem absorb_detour (n : Nat) (names : Location) (s : Segment) :
    ∃ m rest, absorb (detour n names) s = detour m rest := by
  cases s with
  | name entry =>
    refine ⟨n, names ++ [entry], ?_⟩
    rw [absorb, detour, detour, List.map_append, List.append_assoc]
    rfl
  | up =>
    rcases List.eq_nil_or_concat names with rfl | ⟨before, last, rfl⟩
    · -- There is no name to undo, so there is one more climb.
      refine ⟨n + 1, [], ?_⟩
      cases n with
      | zero => rfl
      | succ n => simp [absorb, detour, List.replicate_succ']
    · exact ⟨n, before, by simp [absorb, detour]⟩

theorem foldl_absorb_detour (segments : List Segment) (n : Nat) (names : Location) :
    ∃ m rest, segments.foldl absorb (detour n names) = detour m rest := by
  induction segments generalizing n names with
  | nil => exact ⟨n, names, rfl⟩
  | cons s segments ih =>
    obtain ⟨m, rest, h⟩ := absorb_detour n names s
    rw [List.foldl_cons, h]
    exact ih m rest

/-- **A normal path climbs and then descends.** -/
theorem segments_normal (p : Path) :
    p.normal.segments = detour (p.climb.getD 0) p.names := by
  obtain ⟨root, segments⟩ := p
  cases root with
  | relative =>
    obtain ⟨m, rest, h⟩ := foldl_absorb_detour segments 0 []
    have hnormal : (normal ⟨.relative, segments⟩).segments = detour m rest := h
    rw [climb, if_pos rfl, names, hnormal, count_up_detour, filterMap_name?_detour]
    rfl
  | single => exact congrArg (List.map _) (filterMap_name? _).symm
  | double => exact congrArg (List.map _) (filterMap_name? _).symm

theorem follow_absorb (place : Location) (done : List Segment) (s : Segment) :
    place.follow (absorb done s) = (place.follow done).step s := by
  cases s with
  | name entry => exact Location.follow_append place done [.name entry]
  | up =>
    rcases List.eq_nil_or_concat done with rfl | ⟨before, last, rfl⟩
    · rfl
    · cases last with
      | up => simp [absorb, Location.follow]
      | name entry => simp [absorb, Location.follow, Location.step]

theorem follow_foldl_absorb (place : Location) (segments done : List Segment) :
    place.follow (segments.foldl absorb done) = (place.follow done).follow segments := by
  induction segments generalizing done with
  | nil => rfl
  | cons s segments ih => rw [List.foldl_cons, ih, follow_absorb]; rfl

/-- **A path denotes the place that it climbs to, with its names behind.** -/
theorem locate_eq (p : Path) (cwd : Location) : p.locate cwd = p.base cwd ++ p.names := by
  have hsegments := p.segments_normal
  obtain ⟨root, segments⟩ := p
  cases root with
  | relative =>
    have hfollow : locate ⟨.relative, segments⟩ cwd
        = cwd.follow (normal ⟨.relative, segments⟩).segments := by
      rw [locate_relative rfl]
      exact (follow_foldl_absorb cwd segments []).symm
    rw [hfollow, hsegments, detour, Location.follow_append, Location.follow_replicate_up,
      Location.follow_map_name]
    rfl
  | single => exact (filterMap_name? _).symm
  | double => exact (filterMap_name? _).symm

/-- A path that ends in a name denotes something below the place that it climbs to. -/
theorem names_ne_nil {p : Path} {before : List Segment} {entry : FileName}
    (h : p.segments = before ++ [.name entry]) : p.names ≠ [] := by
  obtain ⟨root, segments⟩ := p
  obtain rfl : segments = before ++ [.name entry] := h
  have hlast : ∃ front, (normal ⟨root, before ++ [.name entry]⟩).segments
      = front ++ [.name entry] := by
    cases root with
    | relative => exact ⟨_, List.foldl_append⟩
    | single | double =>
      refine ⟨(Location.follow [] before).map .name, ?_⟩
      show (Location.follow [] (before ++ [.name entry])).map Segment.name = _
      rw [Location.follow_append]
      exact List.map_append
  obtain ⟨front, hfront⟩ := hlast
  rw [names, hfront, List.filterMap_append]
  exact List.append_ne_nil_of_right_ne_nil _ (List.cons_ne_nil entry [])

/-- A path stays in the directory that it is read in iff it is relative and climbs nowhere. -/
theorem climb_eq_zero_iff {p : Path} :
    p.climb = some 0 ↔ p.root = .relative ∧ .up ∉ p.normal.segments := by
  rw [climb]
  by_cases h : p.root = .relative
  · simp [h, List.count_eq_zero]
  · simp [h]

/-! ## Going from one path to another -/

/-- Where `file` is taken to be by someone who is at `location`, both read in `home`, and goes the
way that was found from `cwd`. -/
def rejoin (location file : Path) (home cwd : Location) : Location :=
  (location.locate home).follow ((location.locate cwd).pathTo (file.locate cwd))

theorem rejoin_self (location file : Path) (home : Location) :
    rejoin location file home home = file.locate home :=
  Location.follow_pathTo _ _

/-- Paths that climb equally far are where they are, seen from anywhere. -/
theorem rejoin_of_climb_eq {location file : Path} (h : location.climb = file.climb)
    (home cwd : Location) : rejoin location file home cwd = file.locate home := by
  have hbase (place : Location) : location.base place = file.base place := by rw [base, h, base]
  rw [rejoin, locate_eq, locate_eq, locate_eq, locate_eq, hbase, hbase,
    Location.follow_pathTo_append]

/-- Of two paths that do not climb equally far, one climbs out of a directory that the other one
stays in. -/
theorem exists_base_of_climb_ne {p q : Path} (h : p.climb ≠ q.climb) :
    ∃ n,
      (∀ entry, p.base (List.replicate n entry) = [] ∧
        q.base (List.replicate n entry) = [entry]) ∨
      ∀ entry, p.base (List.replicate n entry) = [entry] ∧
        q.base (List.replicate n entry) = [] := by
  have hone {r : Path} {n : Nat} (hr : r.climb = some n) (entry : FileName) :
      r.base (List.replicate (n + 1) entry) = [entry] := by
    simp [base, hr]
  have htop {r : Path} (hr : r.climb = none) (place : Location) : r.base place = [] := by
    rw [base, hr]
  have hout {r : Path} {m n : Nat} (hr : r.climb = some m) (hlt : n < m) (entry : FileName) :
      r.base (List.replicate (n + 1) entry) = [] := by
    simp only [base, hr, List.length_replicate, Nat.sub_eq_zero_of_le hlt, List.take_zero]
  cases hp : p.climb with
  | none =>
    cases hq : q.climb with
    | none => exact absurd (hp.trans hq.symm) h
    | some n => exact ⟨n + 1, .inl fun entry => ⟨htop hp _, hone hq entry⟩⟩
  | some m =>
    cases hq : q.climb with
    | none => exact ⟨m + 1, .inr fun entry => ⟨hone hp entry, htop hq _⟩⟩
    | some n =>
      rcases Nat.lt_trichotomy m n with hlt | rfl | hlt
      · exact ⟨m + 1, .inr fun entry => ⟨hone hp entry, hout hq hlt entry⟩⟩
      · exact absurd (hp.trans hq.symm) h
      · exact ⟨n + 1, .inl fun entry => ⟨hout hp hlt entry, hone hq entry⟩⟩

/-- **The way to a file is right wherever it was found iff the two paths climb equally far.** -/
theorem rejoin_eq_iff {location file : Path} (hfile : file.names ≠ []) (home : Location) :
    (∀ cwd, rejoin location file home cwd = file.locate home) ↔ location.climb = file.climb := by
  refine ⟨fun hall => Decidable.byContradiction fun hne => ?_, fun h => rejoin_of_climb_eq h home⟩
  obtain ⟨first, rest, hnames⟩ := List.exists_cons_of_ne_nil hfile
  have hpass {shared target cwd : Location} (hlocation : location.base cwd = shared)
      (htarget : file.base cwd ++ file.names = shared ++ target) :
      location.base home ++ target = file.base home ++ file.names := by
    rw [← locate_eq, ← hall cwd, rejoin, locate_eq, locate_eq location, hlocation, locate_eq file,
      htarget, Location.follow_pathTo_append]
  obtain ⟨n, hout | hin⟩ := exists_base_of_climb_ne hne
  · -- The way passes through the directory that the file alone stays in, whatever its name is.
    have hany (entry : FileName) :
        location.base home ++ entry :: file.names = file.base home ++ file.names :=
      hpass (hout entry).1 (by rw [(hout entry).2]; rfl)
    have hname := (hany ⟨"a", by decide⟩).trans (hany ⟨"b", by decide⟩).symm
    exact absurd (List.append_cancel_left hname) (by simp)
  · -- A directory of the same name as the next one on the way to the file is left out.
    have htop : location.base [] = [] ∧ file.base [] = [] := by
      constructor <;> rw [base] <;> split <;> simp
    have hwhole := hpass htop.1 (congrArg (· ++ file.names) htop.2)
    have hrest : location.base home ++ rest = file.base home ++ file.names :=
      hpass (hin first).1 (by rw [(hin first).2, hnames]; rfl)
    have heq := List.append_cancel_left (hwhole.trans hrest.symm)
    rw [hnames] at heq
    exact absurd (congrArg List.length heq) (by simp)

/-- Between paths that climb equally far there is one way, that from names to names. -/
theorem relativeTo_of_climb_eq {location file : Path} (h : location.climb = file.climb)
    (cwd : Location) :
    file.relativeTo location cwd = ⟨.relative, location.names.pathTo file.names⟩ := by
  have hbase : location.base cwd = file.base cwd := by rw [base, h, base]
  rw [relativeTo, locate_eq, locate_eq, hbase, Location.pathTo_append]

/-- **The way to a file is the same from everywhere iff the two paths climb equally far.** -/
theorem relativeTo_congr_iff {location file : Path} (hfile : file.names ≠ []) :
    (∀ cwd cwd', file.relativeTo location cwd = file.relativeTo location cwd') ↔
      location.climb = file.climb := by
  constructor
  · intro hall
    apply (rejoin_eq_iff hfile []).mp
    intro cwd
    have hway : (location.locate cwd).pathTo (file.locate cwd)
        = (location.locate []).pathTo (file.locate []) := congrArg segments (hall cwd [])
    rw [rejoin, hway]
    exact Location.follow_pathTo _ _
  · intro h cwd cwd'
    rw [relativeTo_of_climb_eq h, relativeTo_of_climb_eq h]

end Path

end CMakeGen
