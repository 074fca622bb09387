import CMakeGen.Document.Value
import CMakeGen.Proofs.Except

/-!
# Values that cannot be written

A value is written with all that is in it, so one integer with too many digits is enough to make a
list or a table that no text is made of. **Nothing else stands in the way** (`Value.exists_text_iff`):
a value fails to be written because of such an integer, and with such an integer in it, however deep,
it does fail.
-/

namespace CMakeGen

/-- Somewhere in the value is an integer that has too many digits to be written. -/
inductive Value.Unwritable : Value → Prop where
  | integer {n : Int} (h : Nat.pow 10 digitLimit ≤ n.natAbs) : Unwritable (.integer n)
  | item {items : List Value} {item : Value} (mem : item ∈ items) (h : Unwritable item) :
      Unwritable (.list items)
  | entry {entries : Table} {key : String} {value : Value} (mem : (key, value) ∈ entries)
      (h : Unwritable value) : Unwritable (.table entries)

theorem Value.unwritable_list_iff {items : List Value} :
    (Value.list items).Unwritable ↔ ∃ item ∈ items, item.Unwritable := by
  constructor
  · rintro (_ | ⟨mem, h⟩)
    exact ⟨_, mem, h⟩
  · rintro ⟨item, mem, h⟩
    exact .item mem h

theorem Value.Unwritable.cons {items : List Value} (item : Value)
    (h : (Value.list items).Unwritable) : (Value.list (item :: items)).Unwritable := by
  obtain ⟨found, mem, hfound⟩ := unwritable_list_iff.mp h
  exact .item (List.mem_cons_of_mem item mem) hfound

theorem writeInteger_error {n : Int} {e : TooManyDigits} (h : writeInteger n = .error e) :
    e = .writing ∧ (Value.integer n).Unwritable := by
  rw [writeInteger] at h
  by_cases hshort : n.natAbs < Nat.pow 10 digitLimit
  · rw [if_pos hshort] at h
    cases h
  · rw [if_neg hshort] at h
    exact ⟨(Except.error.inj h).symm, .integer (Nat.le_of_not_lt hshort)⟩

namespace Value

mutual

theorem shown_error (value : Value) (e : TooManyDigits) (h : value.shown = .error e) :
    e = .writing ∧ value.Unwritable := by
  cases value with
  | null | bool _ | float _ | string _ | date _ | time _ | moment _ =>
    rw [shown] at h
    cases h
  | integer n =>
    rw [shown] at h
    exact writeInteger_error h
  | list items =>
    rw [shown] at h
    rcases bind_eq_error h with h | ⟨_, -, h⟩
    · obtain ⟨he, item, hmem, hitem⟩ := shownItems_error items e h
      exact ⟨he, .item hmem hitem⟩
    · cases h
  | table entries =>
    rw [shown] at h
    rcases bind_eq_error h with h | ⟨_, -, h⟩
    · obtain ⟨he, entry, hmem, hentry⟩ := shownEntries_error entries e h
      exact ⟨he, .entry hmem hentry⟩
    · cases h

theorem shownItems_error (items : List Value) (e : TooManyDigits)
    (h : shownItems items = .error e) : e = .writing ∧ ∃ item ∈ items, item.Unwritable := by
  cases items with
  | nil =>
    rw [shownItems] at h
    cases h
  | cons item rest =>
    rw [shownItems] at h
    rcases bind_eq_error h with h | ⟨_, -, h⟩
    · obtain ⟨he, hitem⟩ := shown_error item e h
      exact ⟨he, item, List.mem_cons_self, hitem⟩
    · rcases bind_eq_error h with h | ⟨_, -, h⟩
      · obtain ⟨he, found, hmem, hfound⟩ := shownItems_error rest e h
        exact ⟨he, found, List.mem_cons_of_mem item hmem, hfound⟩
      · cases h

theorem shownEntries_error (entries : Table) (e : TooManyDigits)
    (h : shownEntries entries = .error e) :
    e = .writing ∧ ∃ entry ∈ entries, entry.2.Unwritable := by
  cases entries with
  | nil =>
    rw [shownEntries] at h
    cases h
  | cons entry rest =>
    obtain ⟨key, value⟩ := entry
    rw [shownEntries] at h
    rcases bind_eq_error h with h | ⟨_, -, h⟩
    · obtain ⟨he, hvalue⟩ := shown_error value e h
      exact ⟨he, (key, value), List.mem_cons_self, hvalue⟩
    · rcases bind_eq_error h with h | ⟨_, -, h⟩
      · obtain ⟨he, found, hmem, hfound⟩ := shownEntries_error rest e h
        exact ⟨he, found, List.mem_cons_of_mem _ hmem, hfound⟩
      · cases h

end

theorem text_error {value : Value} {e : TooManyDigits} (h : value.text = .error e) :
    e = .writing ∧ value.Unwritable := by
  cases value with
  | string _ | date _ | time _ | moment _ => cases h
  | _ => exact shown_error _ e h

theorem exists_of_shownItems {items : List Value} {texts : List String}
    (h : shownItems items = .ok texts) {item : Value} (mem : item ∈ items) :
    ∃ text, item.shown = .ok text := by
  induction items generalizing texts with
  | nil => cases mem
  | cons first rest ih =>
    rw [shownItems] at h
    obtain ⟨text, hfirst, h⟩ := bind_eq_ok_iff.mp h
    obtain ⟨others, hrest, -⟩ := bind_eq_ok_iff.mp h
    rcases List.mem_cons.mp mem with rfl | mem
    · exact ⟨text, hfirst⟩
    · exact ih hrest mem

theorem exists_of_shownEntries {entries : Table} {texts : List String}
    (h : shownEntries entries = .ok texts) {key : String} {value : Value}
    (mem : (key, value) ∈ entries) : ∃ text, value.shown = .ok text := by
  induction entries generalizing texts with
  | nil => cases mem
  | cons first rest ih =>
    rw [shownEntries] at h
    obtain ⟨text, hfirst, h⟩ := bind_eq_ok_iff.mp h
    obtain ⟨others, hrest, -⟩ := bind_eq_ok_iff.mp h
    rcases List.mem_cons.mp mem with rfl | mem
    · exact ⟨text, hfirst⟩
    · exact ih hrest mem

/-- What holds such an integer, however deep, is not shown. -/
theorem Unwritable.shown_ne_ok {value : Value} (h : value.Unwritable) (text : String) :
    value.shown ≠ .ok text := by
  induction h generalizing text with
  | integer hlong =>
    rw [shown, writeInteger, if_neg (Nat.not_lt.mpr hlong)]
    exact fun h => by cases h
  | item mem _ ih =>
    intro h
    rw [shown] at h
    obtain ⟨_, hitems, -⟩ := bind_eq_ok_iff.mp h
    obtain ⟨text, htext⟩ := exists_of_shownItems hitems mem
    exact ih text htext
  | entry mem _ ih =>
    intro h
    rw [shown] at h
    obtain ⟨_, hentries, -⟩ := bind_eq_ok_iff.mp h
    obtain ⟨text, htext⟩ := exists_of_shownEntries hentries mem
    exact ih text htext

/-- **A text is made of a value iff no integer in it has too many digits.** -/
theorem exists_text_iff {value : Value} : (∃ text, value.text = .ok text) ↔ ¬ value.Unwritable := by
  constructor
  · rintro ⟨text, htext⟩ hlong
    have hsame : value.text = value.shown := by cases hlong <;> rfl
    exact hlong.shown_ne_ok text (hsame.symm.trans htext)
  · intro hshort
    cases htext : value.text with
    | ok text => exact ⟨text, rfl⟩
    | error e => exact absurd (text_error htext).2 hshort

end Value

end CMakeGen
