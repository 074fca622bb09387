/-!
# Splitting at a separator

`splitOn` cuts a text at every occurrence of one character and keeps the empty pieces, so a
text with `n` separators always has `n + 1` pieces and nothing but the separators is lost:
`joinWith` puts the text together again (`joinWith_splitOn`). In the other direction the
pieces come back whenever none of them holds the separator (`splitOn_joinWith`). Paths and
the lines of a message are read through this pair.
-/

namespace CMakeGen.Text

/-- The pieces of a text between the occurrences of `separator`, empty ones included. -/
def splitOn (separator : Char) : List Char → List (List Char)
  | [] => [[]]
  | c :: cs =>
    if c = separator then [] :: splitOn separator cs
    else (splitOn separator cs).modifyHead (c :: ·)

/-- Pieces with one `separator` between each two neighbours. -/
def joinWith (separator : Char) : List (List Char) → List Char
  | [] => []
  | [piece] => piece
  | piece :: next :: rest => piece ++ separator :: joinWith separator (next :: rest)

theorem splitOn_ne_nil (separator : Char) (cs : List Char) : splitOn separator cs ≠ [] := by
  cases cs with
  | nil => simp [splitOn]
  | cons c cs =>
    by_cases h : c = separator
    · simp [splitOn, h]
    · have := splitOn_ne_nil separator cs
      simp [splitOn, h, List.modifyHead_eq_nil_iff, this]

theorem joinWith_splitOn (separator : Char) (cs : List Char) :
    joinWith separator (splitOn separator cs) = cs := by
  induction cs with
  | nil => rfl
  | cons c cs ih =>
    obtain ⟨piece, rest, h⟩ := List.exists_cons_of_ne_nil (splitOn_ne_nil separator cs)
    rw [h] at ih
    by_cases hc : c = separator
    · simp [splitOn, hc, h, joinWith, ih]
    · cases rest <;> simp_all [splitOn, joinWith]

theorem not_mem_of_mem_splitOn {separator : Char} {cs piece : List Char}
    (h : piece ∈ splitOn separator cs) : separator ∉ piece := by
  induction cs generalizing piece with
  | nil => simp_all [splitOn]
  | cons c cs ih =>
    by_cases hc : c = separator
    · simp only [splitOn, hc, if_true, List.mem_cons] at h
      rcases h with rfl | h
      · simp
      · exact ih h
    · obtain ⟨head, rest, hs⟩ := List.exists_cons_of_ne_nil (splitOn_ne_nil separator cs)
      simp only [splitOn, hc, if_false, hs, List.modifyHead_cons, List.mem_cons] at h
      rcases h with rfl | h
      · have : separator ∉ head := ih (by simp [hs])
        simp [this, Ne.symm hc]
      · exact ih (by simp [hs, h])

theorem splitOn_append {separator : Char} {piece : List Char} (h : separator ∉ piece)
    (cs : List Char) :
    splitOn separator (piece ++ separator :: cs) = piece :: splitOn separator cs := by
  induction piece with
  | nil => simp [splitOn]
  | cons c piece ih =>
    have hc : c ≠ separator := by rintro rfl; simp at h
    simp [splitOn, hc, ih (by simp_all)]

theorem splitOn_eq_self {separator : Char} {piece : List Char} (h : separator ∉ piece) :
    splitOn separator piece = [piece] := by
  induction piece with
  | nil => rfl
  | cons c piece ih =>
    have hc : c ≠ separator := by rintro rfl; simp at h
    simp [splitOn, hc, ih (by simp_all)]

/-- What is put behind a text and holds no separator belongs to the last piece. -/
theorem exists_splitOn_append {separator : Char} {tail : List Char} (h : separator ∉ tail)
    (cs : List Char) :
    ∃ before last, splitOn separator (cs ++ tail) = before ++ [last ++ tail] := by
  induction cs with
  | nil => exact ⟨[], [], splitOn_eq_self h⟩
  | cons c cs ih =>
    obtain ⟨before, last, ih⟩ := ih
    rw [List.cons_append, splitOn]
    split
    · exact ⟨[] :: before, last, by rw [ih, List.cons_append]⟩
    · rw [ih]
      cases before with
      | nil => exact ⟨[], c :: last, rfl⟩
      | cons piece before => exact ⟨(c :: piece) :: before, last, rfl⟩

theorem splitOn_joinWith {separator : Char} {pieces : List (List Char)} (hne : pieces ≠ [])
    (h : ∀ piece ∈ pieces, separator ∉ piece) :
    splitOn separator (joinWith separator pieces) = pieces := by
  induction pieces with
  | nil => exact absurd rfl hne
  | cons piece rest ih =>
    cases rest with
    | nil => simpa [joinWith] using splitOn_eq_self (h piece (by simp))
    | cons next rest =>
      rw [joinWith, splitOn_append (h piece (by simp)), ih (by simp)]
      intro p hp
      exact h p (by simp_all)

end CMakeGen.Text
