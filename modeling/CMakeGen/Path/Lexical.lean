import CMakeGen.Path.Basic

/-!
# Lexical normalisation

Paths are compared and put in relation to each other without asking the disk: `..` undoes the
name before it, whatever that name stands for. Below the top of the tree this leaves names
alone, so an absolute path amounts to a `Location`, the list of names from the top down, and
the way from one location to another climbs out of what is not shared and then descends
(`Location.pathTo`). A relative path keeps the climbs that have no name to undo.
-/

namespace CMakeGen

/-- A place in the tree: the names that lead to it from the top. -/
abbrev Location := List FileName

namespace Location

/-- Where a step leads. The top of the tree is its own parent. -/
def step (place : Location) : Segment → Location
  | .up => place.dropLast
  | .name entry => place ++ [entry]

/-- Where a list of steps leads. -/
def follow (place : Location) (segments : List Segment) : Location :=
  segments.foldl step place

/-- The absolute path of a place. -/
def toPath (place : Location) : Path := ⟨.single, place.map .name⟩

/-- The steps that lead from the first place to the second: out of every name that the two
do not share, then into the rest of the second. -/
def pathTo : Location → Location → List Segment
  | [], target => target.map .name
  | start, [] => start.map fun _ => .up
  | s :: start, t :: target =>
    if s = t then pathTo start target
    else (s :: start).map (fun _ => .up) ++ (t :: target).map .name

theorem follow_append (place : Location) (xs ys : List Segment) :
    place.follow (xs ++ ys) = (place.follow xs).follow ys :=
  List.foldl_append

@[simp] theorem follow_map_name (place rest : Location) :
    place.follow (rest.map .name) = place ++ rest := by
  induction rest generalizing place with
  | nil => simp [follow]
  | cons entry rest ih =>
    show (place ++ [entry]).follow (rest.map .name) = _
    rw [ih, List.append_assoc, List.singleton_append]

theorem follow_climb (place rest : Location) :
    (place ++ rest).follow (rest.map fun _ => .up) = place := by
  induction rest generalizing place with
  | nil => simp [follow]
  | cons entry rest ih =>
    have h : ∀ n (q : Location), n ≤ q.length →
        q.follow (List.replicate n .up) = q.take (q.length - n) := by
      intro n
      induction n with
      | zero => intro q _; simp [follow]
      | succ n ihn =>
        intro q hq
        have : q.follow (List.replicate (n + 1) .up)
            = follow q.dropLast (List.replicate n .up) := rfl
        rw [this, ihn _ (by simp; omega)]
        rw [List.length_dropLast, List.dropLast_eq_take, List.take_take]
        congr 1
        omega
    rw [List.map_const', h _ _ (by simp)]
    simp

/-- The way from one place to another leads there, also below a place that both are in. -/
theorem append_follow_pathTo (shared start target : Location) :
    (shared ++ start).follow (start.pathTo target) = shared ++ target := by
  induction start generalizing shared target with
  | nil => simp [pathTo]
  | cons s start ih =>
    cases target with
    | nil => simpa [pathTo] using follow_climb shared (s :: start)
    | cons t target =>
      by_cases h : s = t
      · subst h
        simpa [pathTo] using ih (shared ++ [s]) target
      · rw [pathTo, if_neg h, follow_append, follow_climb, follow_map_name]

/-- The way from one place to another leads there. -/
theorem follow_pathTo (start target : Location) : start.follow (start.pathTo target) = target :=
  append_follow_pathTo [] start target

end Location

namespace Path

/-- One step of normalising a relative path: a climb undoes the name before it, and stays
where there is none. -/
def absorb (done : List Segment) : Segment → List Segment
  | .up =>
    match done.getLast? with
    | some (.name _) => done.dropLast
    | _ => done ++ [.up]
  | .name entry => done ++ [.name entry]

/-- The path without a step that undoes another. Above the top of the tree there is nothing
to climb to, so an absolute path keeps names alone. -/
def normal (p : Path) : Path :=
  match p.root with
  | .relative => ⟨.relative, p.segments.foldl absorb []⟩
  | root => ⟨root, (Location.follow [] p.segments).map .name⟩

/-- The steps that a path read in `cwd` takes from the top of the tree. -/
def steps (p : Path) (cwd : Location) : List Segment :=
  match p.root with
  | .relative => cwd.map .name ++ p.segments
  | _ => p.segments

/-- The place that a path denotes, lexically, when it is read in `cwd`. -/
def locate (p : Path) (cwd : Location) : Location := Location.follow [] (p.steps cwd)

/-- The path from `base` to `p`, both read in `cwd`. -/
def relativeTo (p base : Path) (cwd : Location) : Path :=
  ⟨.relative, (base.locate cwd).pathTo (p.locate cwd)⟩

end Path

end CMakeGen
