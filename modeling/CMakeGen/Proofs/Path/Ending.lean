import CMakeGen.Path.Lexical

/-!
# How a path ends

The last step of a path decides last where the path leads, so a path that ends in a name leads to an
entry of that name (`exists_locate_eq`), whatever comes before. **A text that is written with an
extension ends in a name** (`exists_segments_append`): the parts before may climb or start from the
top, but the extension belongs to the last part and keeps it from being one of those with a meaning
of their own.
-/

namespace CMakeGen

theorem Segment.ofString?_fileName {text : String} (h : IsFileName text) :
    ofString? text = some (.name ⟨text, h⟩) :=
  ofString?_toString (.name ⟨text, h⟩)

/-- A text that makes a name of whatever part of a path it ends. -/
def IsExtension (extension : String) : Prop :=
  '/' ∉ extension.toList ∧ ∃ c ∈ extension.toList, c ≠ '.'

instance (extension : String) : Decidable (IsExtension extension) :=
  @instDecidableAnd _ _ _ (List.decidableBEx _ extension.toList)

theorem IsExtension.isFileName {extension : String} (h : IsExtension extension)
    {part : List Char} (hpart : '/' ∉ part) :
    IsFileName (String.ofList (part ++ extension.toList)) := by
  obtain ⟨hslash, c, hc, hdot⟩ := h
  have hmem : c ∈ (String.ofList (part ++ extension.toList)).toList := by
    rw [String.toList_ofList]
    exact List.mem_append_right part hc
  refine ⟨fun heq => ?_, fun heq => ?_, fun heq => ?_, ?_⟩
  · simp [heq] at hmem
  · exact hdot (by simpa [heq] using hmem)
  · exact hdot (by simpa [heq] using hmem)
  · simpa using ⟨hpart, hslash⟩

theorem IsExtension.isFileName_append {extension : String} (h : IsExtension extension)
    {stem : String} (hstem : '/' ∉ stem.toList) : IsFileName (stem ++ extension) := by
  have hname := h.isFileName hstem
  rwa [← String.toList_append, String.ofList_toList] at hname

namespace Path

/-- A name is a path on its own, of one step. -/
theorem ofString_fileName (entry : FileName) :
    ofString entry.text = ⟨.relative, [.name entry]⟩ := by
  have hwritten : toString ⟨.relative, [.name entry]⟩ = entry.text := String.ofList_toList
  rw [← hwritten, ofString_toString]

theorem exists_segments_append {extension : String} (h : IsExtension extension) (text : String) :
    ∃ before entry stem, (ofString (text ++ extension)).segments = before ++ [.name entry] ∧
      entry.text.toList = stem ++ extension.toList := by
  obtain ⟨pieces, last, hpieces⟩ := Text.exists_splitOn_append h.1 text.toList
  have hmem : last ++ extension.toList ∈ Text.splitOn '/' (text.toList ++ extension.toList) := by
    rw [hpieces]
    exact List.mem_concat_self
  have hlast := Text.not_mem_of_mem_splitOn hmem
  have hname := h.isFileName fun hslash => hlast (List.mem_append_left _ hslash)
  refine ⟨pieces.filterMap (Segment.ofString? ∘ String.ofList), ⟨_, hname⟩, last, ?_, ?_⟩
  · have hsome : (Segment.ofString? ∘ String.ofList) (last ++ extension.toList)
        = some (.name ⟨_, hname⟩) := Segment.ofString?_fileName hname
    rw [ofString, String.toList_append, hpieces, List.filterMap_append,
      List.filterMap_cons_some hsome]
    rfl
  · exact String.toList_ofList

variable {q : Path} {before : List Segment} {entry : FileName}
  (h : q.segments = before ++ [.name entry])

include h

/-- What is joined comes last. -/
theorem exists_segments_join (p : Path) :
    ∃ before, (p.join q).segments = before ++ [.name entry] := by
  rw [join]
  split
  · exact ⟨p.segments ++ before, by rw [h, List.append_assoc]⟩
  · exact ⟨before, h⟩

/-- Where a path leads is decided last by its last step. -/
theorem exists_locate_eq (cwd : Location) : ∃ above, q.locate cwd = above ++ [entry] := by
  have hsteps : ∃ start, q.steps cwd = start ++ [.name entry] := by
    obtain ⟨root, segments⟩ := q
    cases root with
    | relative =>
      refine ⟨cwd.map .name ++ before, ?_⟩
      rw [steps, h, List.append_assoc]
    | single => exact ⟨before, h⟩
    | double => exact ⟨before, h⟩
  obtain ⟨start, hstart⟩ := hsteps
  refine ⟨Location.follow [] start, ?_⟩
  rw [locate, hstart, Location.follow_append]
  rfl

end Path

end CMakeGen
