import CMakeGen.Proofs.Disk.Null
import CMakeGen.Proofs.Workspace.Refusal
import CMakeGen.Workspace.File

/-!
# Why a file is no workspace

A model file is read, decoded, parsed and taken for a workspace, and each of these steps has failures
that are diagnosed and failures that are not. **`Undiagnosed` lists the second kind, and there are no
others** (`load_undiagnosed_iff`): a path that the operating system cannot be given, bytes that are no
text, numbers with too many digits, and the one shape of a document that no reader checks.
-/

namespace CMakeGen.Workspace

variable {host : Host} {p : Path}

theorem fromUTF8?_toUTF8 (text : String) : String.fromUTF8? text.toUTF8 = some text := by
  rw [String.fromUTF8?, dif_pos (show text.toUTF8.IsValidUTF8 from text.isValidUTF8)]
  rfl

theorem eq_toUTF8_of_fromUTF8? {contents : ByteArray} {text : String}
    (h : String.fromUTF8? contents = some text) : contents = text.toUTF8 := by
  rw [String.fromUTF8?] at h
  split at h
  · cases h
    rfl
  · cases h

/-- What is wrong with a model file and is not diagnosed. -/
inductive Undiagnosed (host : Host) (p : Path) : LoadError → Prop where
  | nullCharacter (h : p.hasNull = true) : Undiagnosed host p .nullCharacter
  | notText {contents : ByteArray} (read : host.disk.read host.cwd p = .ok contents)
      (h : String.fromUTF8? contents = none) : Undiagnosed host p .notText
  /-- A number in the file has too many digits to be read. -/
  | longNumber {text : String} {digits : Nat} (read : host.disk.read host.cwd p = .ok text.toUTF8)
      (h : Toml.read text = .error (.tooManyDigits digits)) :
      Undiagnosed host p (.read (.tooManyDigits (.reading digits)))
  /-- A text is to be made of an integer with too many digits. -/
  | longText {text : String} {table : Table} {e : TooManyDigits}
      (read : host.disk.read host.cwd p = .ok text.toUTF8) (parse : Toml.read text = .ok table)
      (h : ofValue p.parent p.stem (.table table) = .error (.tooManyDigits e)) :
      Undiagnosed host p (.read (.tooManyDigits e))
  | notSequence {text : String} {table : Table}
      (read : host.disk.read host.cwd p = .ok text.toUTF8) (parse : Toml.read text = .ok table)
      (h : ofValue p.parent p.stem (.table table) = .error .notSequence) :
      Undiagnosed host p (.read .notSequence)

theorem load_of_text {text : String} (h : host.disk.read host.cwd p = .ok text.toUTF8) :
    load host p = match Toml.read text with
      | .error (.tooManyDigits digits) => .error (.read (.tooManyDigits (.reading digits)))
      | .error fault => .error (.about p (.malformed fault.message))
      | .ok table => (ofValue p.parent p.stem (.table table)).mapError .read := by
  rw [load, h]
  dsimp only
  split
  · next htext => cases (fromUTF8?_toUTF8 text).symm.trans htext
  · next htext =>
    cases (fromUTF8?_toUTF8 text).symm.trans htext
    rfl

theorem load_of_table {text : String} {table : Table}
    (h : host.disk.read host.cwd p = .ok text.toUTF8) (hparse : Toml.read text = .ok table) :
    load host p = (ofValue p.parent p.stem (.table table)).mapError .read := by
  rw [load_of_text h, hparse]

theorem load_of_not_text {contents : ByteArray} (hread : host.disk.read host.cwd p = .ok contents)
    (h : String.fromUTF8? contents = none) : load host p = .error .notText := by
  rw [load, hread]
  dsimp only
  rw [h]

theorem text_cases {contents : ByteArray} (hread : host.disk.read host.cwd p = .ok contents) :
    String.fromUTF8? contents = none ∨
      ∃ text, host.disk.read host.cwd p = .ok (String.toUTF8 text) := by
  cases htext : String.fromUTF8? contents with
  | none => exact .inl rfl
  | some text => exact .inr ⟨text, eq_toUTF8_of_fromUTF8? htext ▸ hread⟩

/-- A workspace comes out of a file that holds a document. -/
theorem document_of_load {w : Workspace} (h : load host p = .ok w) :
    ∃ text table, host.disk.read host.cwd p = .ok text.toUTF8 ∧ Toml.read text = .ok table ∧
      ofValue p.parent p.stem (.table table) = .ok w := by
  cases hread : host.disk.read host.cwd p with
  | error e =>
    rw [load, hread] at h
    cases e <;> cases h
  | ok contents =>
    rcases text_cases hread with htext | ⟨text, htext⟩
    · rw [load_of_not_text hread htext] at h
      cases h
    · rw [load_of_text htext] at h
      split at h
      · cases h
      · cases h
      · next table hparse =>
        exact ⟨text, table, hread.symm.trans htext, hparse, mapError_eq_ok_iff.mp h⟩

/-- **What is wrong with a model file is diagnosed, but for this.** -/
theorem load_undiagnosed_iff {error : LoadError} :
    (load host p = .error error ∧ ∀ d, error ≠ .read (.diagnosed d)) ↔
      Undiagnosed host p error := by
  constructor
  · rintro ⟨h, hdiagnosed⟩
    cases hread : host.disk.read host.cwd p with
    | error e =>
      rw [load, hread] at h
      cases e with
      | nullCharacter =>
        cases h
        exact .nullCharacter (Disk.read_eq_null_iff.mp hread)
      | fault | noSpace =>
        cases h
        exact absurd rfl (hdiagnosed _)
    | ok contents =>
      rcases text_cases hread with htext | ⟨text, htext⟩
      · rw [load_of_not_text hread htext] at h
        cases h
        exact .notText hread htext
      · rw [load_of_text htext] at h
        split at h
        · next digits hparse =>
          cases h
          exact .longNumber htext hparse
        · cases h
          exact absurd rfl (hdiagnosed _)
        · next table hparse =>
          obtain ⟨e, hvalue, rfl⟩ := mapError_eq_error h
          rcases ofValue_error hvalue with (⟨d⟩ | hlong) | ⟨rfl, -⟩
          · exact absurd rfl (hdiagnosed d)
          · exact .longText htext hparse hvalue
          · exact .notSequence htext hparse hvalue
  · intro h
    cases h with
    | nullCharacter h => exact ⟨by rw [load, Disk.read_eq_null_iff.mpr h], nofun⟩
    | notText read h => exact ⟨load_of_not_text read h, nofun⟩
    | longNumber read h => exact ⟨by rw [load_of_text read, h], nofun⟩
    | longText read parse h => exact ⟨by rw [load_of_table read parse, h]; rfl, nofun⟩
    | notSequence read parse h => exact ⟨by rw [load_of_table read parse, h]; rfl, nofun⟩

end CMakeGen.Workspace
