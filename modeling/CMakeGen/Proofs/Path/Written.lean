import CMakeGen.Path.Lexical

/-!
# The characters of a written path

A path is written with slashes and with what its steps are written with. **Apart from slashes and dots,
a character is in a written path iff it is in one of the steps** (`mem_toString_iff`). A slash is there
iff the path starts from the top or has two steps to keep apart (`slash_mem_toString_iff`).
-/

namespace CMakeGen

theorem Text.mem_joinWith {separator c : Char} (h : c ≠ separator) (pieces : List (List Char)) :
    c ∈ joinWith separator pieces ↔ ∃ piece ∈ pieces, c ∈ piece := by
  induction pieces with
  | nil => simp [joinWith]
  | cons piece rest ih =>
    cases rest with
    | nil => simp [joinWith]
    | cons next rest =>
      rw [joinWith, List.mem_append, List.mem_cons, ih]
      simp [h]

/-- A separator that is in no piece stands between two of them. -/
theorem Text.separator_mem_joinWith {separator : Char} {pieces : List (List Char)}
    (h : ∀ piece ∈ pieces, separator ∉ piece) :
    separator ∈ joinWith separator pieces ↔ 2 ≤ pieces.length := by
  cases pieces with
  | nil => simp [joinWith]
  | cons piece rest =>
    cases rest with
    | nil => simpa [joinWith] using h
    | cons next rest => simp [joinWith]

namespace Path

variable {p : Path}

theorem mem_toString_iff {c : Char} (hslash : c ≠ '/') (hdot : c ≠ '.') :
    c ∈ p.toString.toList ↔ ∃ s ∈ p.segments, c ∈ s.toString.toList := by
  have hroot : c ∉ p.root.toList := by
    cases p.root <;> simp [Root.toList, hslash]
  unfold toString
  split
  · next hhere =>
    rw [hhere.2]
    simp [hdot]
  · rw [String.toList_ofList, List.mem_append, Text.mem_joinWith hslash, or_iff_right hroot]
    constructor
    · intro h
      obtain ⟨piece, hpiece, hc⟩ := h
      obtain ⟨s, hs, rfl⟩ := List.mem_map.mp hpiece
      exact ⟨s, hs, hc⟩
    · intro h
      obtain ⟨s, hs, hc⟩ := h
      exact ⟨_, List.mem_map_of_mem hs, hc⟩

theorem slash_mem_toString_iff :
    '/' ∈ p.toString.toList ↔ p.root ≠ .relative ∨ 2 ≤ p.segments.length := by
  have hpieces : ∀ piece ∈ p.segments.map (String.toList ∘ Segment.toString), '/' ∉ piece := by
    intro piece hpiece
    obtain ⟨s, -, rfl⟩ := List.mem_map.mp hpiece
    exact s.slash_not_mem_toString
  have hroot : '/' ∈ p.root.toList ↔ p.root ≠ .relative := by
    cases p.root <;> simp [Root.toList]
  unfold toString
  split
  · next hhere => simp [hhere.1, hhere.2]
  · rw [String.toList_ofList, List.mem_append, Text.separator_mem_joinWith hpieces, hroot,
      List.length_map]

end Path

end CMakeGen
