import CMakeGen.Proofs.Script.Reader

/-!
# Escapes are undone

What `Script/Escape.lean` writes, the stages of the reader take back. Both forms of a bare
argument are written character by character, so each law is one fact about a character
(`plain_escapeChar`, `plainValue_literalChar`) and an induction along the value.

**`literal` is such a form only where U+0000 is absent**: with it, a character may be written
together with the one before it (`literal_eq_translated`).

The second half is about the shape of what is written: `IsWord` is the property that makes a
reader take a text for one bare argument, whatever the argument means. Carriage returns are what
stands in the way, since they are blanks and have no escape.
-/

namespace CMakeGen.Script

/-! ## Bare arguments -/

theorem plain_cons {c : Char} (h : c ≠ '\\') (rest : List Char) :
    plain (c :: rest) = c :: plain rest := by
  conv_lhs => unfold plain
  split <;> simp_all

theorem pairMeaning_of_isReserved {c : Char} (h : isReserved c = true) : pairMeaning c = c := by
  have ht : c ≠ 't' := by rintro rfl; exact absurd h (by decide)
  have hn : c ≠ 'n' := by rintro rfl; exact absurd h (by decide)
  have hr : c ≠ 'r' := by rintro rfl; exact absurd h (by decide)
  rw [pairMeaning, if_neg ht, if_neg hn, if_neg hr]

/-- The four ways in which a character of a bare argument is written. -/
theorem escapeChar_cases (c : Char) :
    (c = '\t' ∧ escapeChar c = ['\\', 't']) ∨ (c = '\n' ∧ escapeChar c = ['\\', 'n']) ∨
      (isReserved c = true ∧ escapeChar c = ['\\', c]) ∨
      (c ≠ '\t' ∧ c ≠ '\n' ∧ isReserved c = false ∧ escapeChar c = [c]) := by
  unfold escapeChar
  by_cases ht : c = '\t'
  · exact Or.inl ⟨ht, if_pos ht⟩
  by_cases hn : c = '\n'
  · exact Or.inr (Or.inl ⟨hn, by rw [if_neg ht, if_pos hn]⟩)
  cases hr : isReserved c with
  | true => exact Or.inr (Or.inr (Or.inl ⟨rfl, by simp [ht, hn]⟩))
  | false => exact Or.inr (Or.inr (Or.inr ⟨ht, hn, rfl, by simp [ht, hn]⟩))

theorem ne_backslash_of_not_isReserved {c : Char} (h : isReserved c = false) : c ≠ '\\' := by
  rintro rfl
  exact absurd h (by decide)

theorem plain_escapeChar (c : Char) (rest : List Char) :
    plain (escapeChar c ++ rest) = c :: plain rest := by
  rcases escapeChar_cases c with ⟨rfl, h⟩ | ⟨rfl, h⟩ | ⟨hr, h⟩ | ⟨-, -, hr, h⟩
  · rw [h]; rfl
  · rw [h]; rfl
  · rw [h]
    show pairMeaning c :: plain rest = _
    rw [pairMeaning_of_isReserved hr]
  · rw [h]
    exact plain_cons (ne_backslash_of_not_isReserved hr) rest

/-- **A bare argument reads as the value it was written for.** -/
theorem plain_unquoted (value : List Char) : plain (unquoted value) = value := by
  induction value with
  | nil => rfl
  | cons c value ih =>
    rw [unquoted, List.flatMap_cons, plain_escapeChar]
    exact congrArg (c :: ·) ih

/-- A text without a backslash is read as it stands. -/
theorem plain_eq_self {word : List Char} (h : '\\' ∉ word) : plain word = word := by
  induction word with
  | nil => rfl
  | cons c word ih =>
    rw [plain_cons (fun hc => h (by simp [hc])), ih (fun hm => h (List.mem_cons_of_mem c hm))]

/-! ## Values inside a guard -/

/-- One character of a value inside a guard. -/
def literalChar (c : Char) : List Char :=
  if c = '>' then angleExpression else if c = ',' then commaExpression else escapeChar c

/-- U+0000 and a letter behind it, which a value inside a guard holds in place of a `>` or `,`. -/
def StartsMark (c : Char) (rest : List Char) : Prop :=
  c = '\x00' ∧ (rest.head? = some 'R' ∨ rest.head? = some 'C')

/-- A value is a row of marks, and of characters that start none. -/
@[elab_as_elim]
theorem mark_induction {motive : List Char → Prop} (nil : motive [])
    (angle : ∀ rest, motive rest → motive ('\x00' :: 'R' :: rest))
    (comma : ∀ rest, motive rest → motive ('\x00' :: 'C' :: rest))
    (char : ∀ c rest, ¬ StartsMark c rest → motive rest → motive (c :: rest))
    (value : List Char) : motive value := by
  induction value using literal.induct with
  | case1 => exact nil
  | case2 rest ih => exact angle rest ih
  | case3 rest ih => exact comma rest ih
  | case4 rest _ _ ih => exact char '>' rest (fun h => absurd h.1 (by decide)) ih
  | case5 rest _ _ _ ih => exact char ',' rest (fun h => absurd h.1 (by decide)) ih
  | case6 c rest hangle hcomma _ _ ih =>
    refine char c rest ?_ ih
    rintro ⟨hnull, hhead | hhead⟩
    · obtain ⟨tail, htail⟩ := List.head?_eq_some_iff.mp hhead
      exact hangle tail hnull htail
    · obtain ⟨tail, htail⟩ := List.head?_eq_some_iff.mp hhead
      exact hcomma tail hnull htail

theorem literal_of_not_startsMark {c : Char} {rest : List Char} (h : ¬ StartsMark c rest) :
    literal (c :: rest) = literalChar c ++ literal rest := by
  have hangle (tail : List Char) (hnull : c = '\x00') (htail : rest = 'R' :: tail) : False :=
    h ⟨hnull, .inl (by rw [htail]; rfl)⟩
  have hcomma (tail : List Char) (hnull : c = '\x00') (htail : rest = 'C' :: tail) : False :=
    h ⟨hnull, .inr (by rw [htail]; rfl)⟩
  rw [literal, literalChar]
  · split
    · rfl
    · split <;> rfl
  · exact hangle
  · exact hcomma

/-- A value written inside a guard, each of its characters on its own. -/
def translated (value : List Char) : List Char := value.flatMap literalChar

@[simp] theorem translated_nil : translated [] = [] := rfl

@[simp] theorem translated_cons (c : Char) (value : List Char) :
    translated (c :: value) = literalChar c ++ translated value :=
  List.flatMap_cons

/-- Away from U+0000 a value is written character by character. -/
theorem literal_eq_translated {value : List Char} (h : '\x00' ∉ value) :
    literal value = translated value := by
  induction value with
  | nil => rfl
  | cons c value ih =>
    rw [List.mem_cons, not_or] at h
    obtain ⟨hc, hvalue⟩ := h
    rw [literal_of_not_startsMark fun hmark => hc hmark.1.symm, ih hvalue, translated_cons]

theorem plainValue_cons {c : Char} (h : c ≠ '\\') (hd : c ≠ '$') (rest : List Char) :
    plainValue (c :: rest) = c :: plainValue rest := by
  conv_lhs => unfold plainValue
  split <;> simp_all

theorem plainValue_escapeChar (c : Char) (rest : List Char) :
    plainValue (escapeChar c ++ rest) = c :: plainValue rest := by
  rcases escapeChar_cases c with ⟨rfl, h⟩ | ⟨rfl, h⟩ | ⟨hr, h⟩ | ⟨-, -, hr, h⟩
  · rw [h]; rfl
  · rw [h]; rfl
  · rw [h]
    show pairMeaning c :: plainValue rest = _
    rw [pairMeaning_of_isReserved hr]
  · rw [h]
    have hd : c ≠ '$' := by
      rintro rfl
      exact absurd hr (by decide)
    exact plainValue_cons (ne_backslash_of_not_isReserved hr) hd rest

theorem plainValue_literalChar (c : Char) (rest : List Char) :
    plainValue (literalChar c ++ rest) = c :: plainValue rest := by
  unfold literalChar
  split
  · next h => subst h; rfl
  split
  · next h => subst h; rfl
  exact plainValue_escapeChar c rest

theorem plainValue_translated (value : List Char) : plainValue (translated value) = value := by
  induction value with
  | nil => rfl
  | cons c value ih => rw [translated_cons, plainValue_literalChar, ih]

/-- **A value inside a guard reads as it was meant**, unless it holds U+0000. -/
theorem plainValue_literal {value : List Char} (h : '\x00' ∉ value) :
    plainValue (literal value) = value := by
  rw [literal_eq_translated h, plainValue_translated]

/-! ## Guards -/

theorem dropPrefix?_append (start rest : List Char) :
    (start ++ rest).dropPrefix? start = some rest :=
  List.dropPrefix?_eq_some_iff.mpr ⟨start, rfl, beq_self_eq_true start⟩

/-- The name in a guard ends at the first `>`, and the value before the last one. -/
theorem guard?_guarded {configuration : List Char} (h : '>' ∉ configuration) (value : List Char) :
    guard? (guarded configuration value) = some (configuration, value) := by
  have hne : ∀ c ∈ configuration, decide (c ≠ '>') = true :=
    fun c hc => decide_eq_true fun he => h (he ▸ hc)
  have hsplit : guarded configuration value
      = "$<$<CONFIG:".toList ++ (configuration ++ (">:".toList ++ (value ++ ['>']))) := by
    unfold guarded
    simp only [List.append_assoc]
    rfl
  have htake : (configuration ++ (">:".toList ++ (value ++ ['>']))).takeWhile (· ≠ '>')
      = configuration := by
    rw [List.takeWhile_append_of_pos hne]
    exact List.append_nil configuration
  have hdrop : (configuration ++ (">:".toList ++ (value ++ ['>']))).dropWhile (· ≠ '>')
      = ">:".toList ++ (value ++ ['>']) := by
    rw [List.dropWhile_append_of_pos hne]
    rfl
  rw [hsplit, guard?, dropPrefix?_append]
  simp only [Option.bind_eq_bind, Option.bind_some, hdrop, htake, dropPrefix?_append]
  simp

/-- A guard starts with a dollar sign that is not escaped. -/
theorem guard?_eq_none {word : List Char} (h : word.head? ≠ some '$') : guard? word = none := by
  have hopen : word.dropPrefix? "$<$<CONFIG:".toList = none := by
    cases hd : word.dropPrefix? "$<$<CONFIG:".toList with
    | none => rfl
    | some rest =>
      obtain ⟨start, rfl, hs⟩ := List.dropPrefix?_eq_some_iff.mp hd
      rw [eq_of_beq hs] at h
      exact absurd (by simp) h
  unfold guard?
  rw [hopen, Option.bind_eq_bind, Option.bind_none]

theorem ofWord_guarded {configuration value : List Char} (h : '>' ∉ configuration)
    (hv : '\x00' ∉ value) :
    Argument.ofWord (guarded configuration (literal value))
      = .guarded (String.ofList configuration) (String.ofList value) := by
  rw [Argument.ofWord, guard?_guarded h]
  show Argument.guarded _ (String.ofList (plainValue (literal value))) = _
  rw [plainValue_literal hv]

theorem head?_unquoted (value : List Char) : (unquoted value).head? ≠ some '$' := by
  cases value with
  | nil => simp [unquoted]
  | cons c value =>
    rw [unquoted, List.flatMap_cons]
    rcases escapeChar_cases c with ⟨rfl, h⟩ | ⟨rfl, h⟩ | ⟨-, h⟩ | ⟨-, -, hr, h⟩
    · simp [h]
    · simp [h]
    · simp [h]
    · simp only [h, List.cons_append, List.head?_cons, ne_eq, Option.some.injEq]
      rintro rfl
      exact absurd hr (by decide)

theorem ofWord_unquoted (value : List Char) :
    Argument.ofWord (unquoted value) = .bare (String.ofList value) := by
  rw [Argument.ofWord, guard?_eq_none (head?_unquoted value), plain_unquoted]

theorem ofWord_eq_bare {word : List Char} (hd : '$' ∉ word) (hb : '\\' ∉ word) :
    Argument.ofWord word = .bare (String.ofList word) := by
  have hhead : word.head? ≠ some '$' := fun h => hd (List.mem_of_head? h)
  rw [Argument.ofWord, guard?_eq_none hhead, plain_eq_self hb]

/-! ## The shape of a bare argument -/

/-- A text that a reader takes for one bare argument, or for the rest of one. -/
inductive IsWord : List Char → Prop where
  | nil : IsWord []
  /-- Behind a backslash every character may stand. -/
  | pair (c : Char) {rest : List Char} : IsWord rest → IsWord ('\\' :: c :: rest)
  | char {c : Char} {rest : List Char} (hb : c ≠ '\\') (he : endsWord c = false) :
      IsWord rest → IsWord (c :: rest)

theorem IsWord.append {xs ys : List Char} (hx : IsWord xs) (hy : IsWord ys) :
    IsWord (xs ++ ys) := by
  induction hx with
  | nil => exact hy
  | pair c _ ih => exact .pair c ih
  | char hb he _ ih => exact .char hb he ih

/-- A text of characters that neither start an escape nor end a bare argument. -/
def IsPlain (word : List Char) : Prop := ∀ c ∈ word, c ≠ '\\' ∧ endsWord c = false

-- The instance is named, since another one would go through all characters there are.
instance (word : List Char) : Decidable (IsPlain word) := List.decidableBAll _ word

theorem IsPlain.isWord {word : List Char} (h : IsPlain word) : IsWord word := by
  induction word with
  | nil => exact .nil
  | cons c word ih =>
    obtain ⟨hb, he⟩ := h c List.mem_cons_self
    exact .char hb he (ih fun d hd => h d (List.mem_cons_of_mem c hd))

/-- Only a carriage return, which is a blank without an escape, breaks a bare argument up. -/
theorem isWord_escapeChar {c : Char} (h : c ≠ '\r') : IsWord (escapeChar c) := by
  rcases escapeChar_cases c with ⟨rfl, he⟩ | ⟨rfl, he⟩ | ⟨-, he⟩ | ⟨ht, hn, hr, he⟩
  · rw [he]; exact .pair _ .nil
  · rw [he]; exact .pair _ .nil
  · rw [he]; exact .pair _ .nil
  · rw [he]
    refine .char (ne_backslash_of_not_isReserved hr) ?_ .nil
    simp only [isReserved, Bool.or_eq_false_iff, decide_eq_false_iff_not] at hr
    simp [endsWord, isBlank, ht, hn, h, hr]

theorem isWord_flatMap {write : Char → List Char} {value : List Char}
    (h : ∀ c ∈ value, IsWord (write c)) : IsWord (value.flatMap write) := by
  induction value with
  | nil => exact .nil
  | cons c value ih =>
    rw [List.flatMap_cons]
    exact (h c List.mem_cons_self).append (ih fun d hd => h d (List.mem_cons_of_mem c hd))

theorem isWord_unquoted {value : List Char} (h : '\r' ∉ value) : IsWord (unquoted value) :=
  isWord_flatMap fun _ hc => isWord_escapeChar fun heq => h (heq ▸ hc)

theorem isWord_literalChar {c : Char} (h : c ≠ '\r') : IsWord (literalChar c) := by
  unfold literalChar
  split
  · exact IsPlain.isWord (by decide)
  split
  · exact IsPlain.isWord (by decide)
  exact isWord_escapeChar h

theorem isWord_literal {value : List Char} (h0 : '\x00' ∉ value) (h : '\r' ∉ value) :
    IsWord (literal value) := by
  rw [literal_eq_translated h0]
  exact isWord_flatMap fun _ hc => isWord_literalChar fun heq => h (heq ▸ hc)

theorem isWord_guarded {configuration value : List Char} (hc : IsWord configuration)
    (hv : IsWord value) : IsWord (guarded configuration value) := by
  have hopen : IsWord "$<$<CONFIG:".toList := IsPlain.isWord (by decide)
  have hmid : IsWord ">:".toList := IsPlain.isWord (by decide)
  have hclose : IsWord ">".toList := IsPlain.isWord (by decide)
  exact (((hopen.append hc).append hmid).append hv).append hclose

end CMakeGen.Script
