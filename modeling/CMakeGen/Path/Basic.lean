import CMakeGen.Text.Split

/-!
# Paths

A path is what it starts from and a list of steps. Reading a text drops the parts that lead
nowhere, the empty ones and `.`, and keeps `..`: whether a step up undoes the step before it
depends on the disk, and only lexical normalisation (`Path/Lexical.lean`) decides so without
asking. Exactly two leading slashes are kept apart from one, three or more count as one.

File names carry the proof that they are one part of a path, so writing a path and reading it
again gives the same path (`ofString_toString`).
-/

namespace CMakeGen

/-- A text that stands for one entry of a directory: it is a single part, not empty, and
neither of the two parts with a meaning of their own. -/
def IsFileName (text : String) : Prop :=
  text ≠ "" ∧ text ≠ "." ∧ text ≠ ".." ∧ '/' ∉ text.toList

instance (text : String) : Decidable (IsFileName text) :=
  inferInstanceAs (Decidable (_ ∧ _ ∧ _ ∧ _))

/-- The name of an entry of a directory. -/
structure FileName where
  text : String
  isFileName : IsFileName text
deriving DecidableEq

/-- One step along a path. -/
inductive Segment where
  /-- To the parent, written `..`. -/
  | up
  /-- Into the entry of that name. -/
  | name (entry : FileName)
deriving DecidableEq

namespace Segment

def toString : Segment → String
  | .up => ".."
  | .name entry => entry.text

/-- The step that a part of a path names; the empty part and `.` name none. -/
def ofString? (part : String) : Option Segment :=
  if part = ".." then some .up
  else if h : IsFileName part then some (.name ⟨part, h⟩)
  else none

theorem ofString?_toString (s : Segment) : ofString? s.toString = some s := by
  cases s with
  | up => simp [ofString?, toString]
  | name entry =>
    obtain ⟨text, h⟩ := entry
    simp [ofString?, toString, h, h.2.2.1]

theorem slash_not_mem_toString (s : Segment) : '/' ∉ s.toString.toList := by
  cases s with
  | up => decide
  | name entry => exact entry.isFileName.2.2.2

theorem toString_ne_empty (s : Segment) : s.toString ≠ "" := by
  cases s with
  | up => decide
  | name entry => exact entry.isFileName.1

end Segment

/-- What a path starts from. -/
inductive Root where
  /-- The directory it is read in. -/
  | relative
  /-- The top of the tree, written with one slash. -/
  | single
  /-- The top of the tree, written with exactly two slashes. -/
  | double
deriving DecidableEq

/-- The slashes that a path with this root is written with. -/
def Root.toList : Root → List Char
  | .relative => []
  | .single => ['/']
  | .double => ['/', '/']

/-- A path: a root and the steps from there. -/
structure Path where
  root : Root
  segments : List Segment
deriving DecidableEq

namespace Path

/-- The root that a text is written with. -/
def rootOf : List Char → Root
  | '/' :: '/' :: '/' :: _ => .single
  | '/' :: '/' :: _ => .double
  | '/' :: _ => .single
  | _ => .relative

/-- The path that a text denotes. -/
def ofString (text : String) : Path where
  root := rootOf text.toList
  segments := (Text.splitOn '/' text.toList).filterMap (Segment.ofString? ∘ String.ofList)

/-- The written form of a path. The path that leads nowhere is written `.`. -/
def toString (p : Path) : String :=
  if p.root = .relative ∧ p.segments = [] then "."
  else String.ofList
    (p.root.toList ++ Text.joinWith '/' (p.segments.map (String.toList ∘ Segment.toString)))

instance : ToString Path := ⟨toString⟩

/-- The directory a path is read in. -/
def here : Path := ⟨.relative, []⟩

def isAbsolute (p : Path) : Bool := p.root ≠ .relative

/-- The second path as seen from the first: an absolute one replaces the first. -/
def join (p q : Path) : Path :=
  if q.root = .relative then ⟨p.root, p.segments ++ q.segments⟩ else q

/-- A path with its last step left out; a bare root is its own parent. -/
def parent (p : Path) : Path := ⟨p.root, p.segments.dropLast⟩

/-- The last part of a path, empty for a bare root. -/
def name (p : Path) : String :=
  (p.segments.getLast?.map Segment.toString).getD ""

/-- What stands before the last dot of the last part, if the dot has something on both
sides; else the whole part. -/
def stem (p : Path) : String :=
  let chars := p.name.toList
  let suffix := chars.reverse.takeWhile (· ≠ '.')
  let before := chars.take (chars.length - suffix.length - 1)
  if suffix.length < chars.length ∧ suffix ≠ [] ∧ before ≠ [] then String.ofList before
  else p.name

/-! ## Reading a written path -/

theorem rootOf_append {rest : List Char} (h : rest.head? ≠ some '/') (root : Root) :
    rootOf (root.toList ++ rest) = root := by
  cases rest with
  | nil => cases root <;> rfl
  | cons c cs =>
    have hc : c ≠ '/' := by simpa using h
    cases root <;> simp [Root.toList, rootOf, hc]

theorem head?_joinWith {parts : List (List Char)} (hne : ∀ part ∈ parts, part ≠ [])
    (h : ∀ part ∈ parts, '/' ∉ part) : (Text.joinWith '/' parts).head? ≠ some '/' := by
  match parts with
  | [] => simp [Text.joinWith]
  | [] :: _ => exact absurd rfl (hne [] (by simp))
  | [c :: cs] =>
    have := h (c :: cs) (by simp)
    simp [Text.joinWith]
    rintro rfl
    simp at this
  | (c :: cs) :: next :: rest =>
    have := h (c :: cs) (by simp)
    simp [Text.joinWith]
    rintro rfl
    simp at this

theorem filterMap_splitOn_append (root : Root) (rest : List Char) :
    (Text.splitOn '/' (root.toList ++ rest)).filterMap (Segment.ofString? ∘ String.ofList)
      = (Text.splitOn '/' rest).filterMap (Segment.ofString? ∘ String.ofList) := by
  have hnone : Segment.ofString? (String.ofList []) = none := by
    simp [Segment.ofString?, IsFileName]
  cases root <;> simp [Root.toList, Text.splitOn, hnone]

theorem filterMap_ofString? (segments : List Segment) :
    (segments.map (String.toList ∘ Segment.toString)).filterMap
      (Segment.ofString? ∘ String.ofList) = segments := by
  induction segments with
  | nil => rfl
  | cons s rest ih =>
    have hs : (Segment.ofString? ∘ String.ofList) ((String.toList ∘ Segment.toString) s)
        = some s := by
      simp [Segment.ofString?_toString]
    rw [List.map_cons, List.filterMap_cons_some hs, ih]

/-- Reading undoes writing. -/
theorem ofString_toString (p : Path) : ofString p.toString = p := by
  obtain ⟨root, segments⟩ := p
  by_cases hhere : root = .relative ∧ segments = []
  · obtain ⟨rfl, rfl⟩ := hhere
    simp [toString, ofString, rootOf, Text.splitOn, Segment.ofString?, IsFileName]
  · have hslash : ∀ part ∈ segments.map (String.toList ∘ Segment.toString), '/' ∉ part := by
      intro part hpart
      obtain ⟨s, -, rfl⟩ := List.mem_map.1 hpart
      exact s.slash_not_mem_toString
    have hempty : ∀ part ∈ segments.map (String.toList ∘ Segment.toString), part ≠ [] := by
      intro part hpart
      obtain ⟨s, -, rfl⟩ := List.mem_map.1 hpart
      simpa using s.toString_ne_empty
    simp only [toString, ofString, hhere, if_false, String.toList_ofList,
      rootOf_append (head?_joinWith hempty hslash), filterMap_splitOn_append]
    cases segments with
    | nil => simp [Text.joinWith, Text.splitOn, Segment.ofString?, IsFileName]
    | cons s rest =>
      rw [Text.splitOn_joinWith (by simp) hslash, filterMap_ofString?]

end Path

end CMakeGen
