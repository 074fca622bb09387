import CMakeGen.Model.Store
import CMakeGen.Proofs.Script.Escape

/-!
# Written texts are read as the arguments they stand for

`Reads text arguments` says that a reader between two arguments takes `text` for `arguments` and
is between two arguments again. **It is stated for a text with a blank or a closing bracket behind
it**, and leaves that character to be read: a bare argument has no end of its own, and this way
the law is the same for a quoted argument, a bare one and several of them (`Reads.space`).

From there a line is a text with a newline behind it, and lines follow each other (`run_lines`),
so a command is read line by line, whatever its depth. What a script is made of fits into three
shapes: the line that opens a command, lines of arguments, and the line that closes it.
-/

namespace CMakeGen.Script

namespace Reading

/-! ## Running -/

theorem run_cons (r : Reading) (c : Char) (rest : List Char) :
    r.run (c :: rest) = (r.step c).bind fun r => r.run rest := rfl

theorem run_cons_of_step {r r' : Reading} {c : Char} (h : r.step c = some r') (rest : List Char) :
    r.run (c :: rest) = r'.run rest := by
  rw [run_cons, h, Option.bind_some]

/-- Blanks between two arguments are passed over. -/
theorem run_blank {c : Char} (h : isBlank c = true) (done : List Command) (k : Partial)
    (rest : List Char) : run ⟨done, .between k⟩ (c :: rest) = run ⟨done, .between k⟩ rest :=
  run_cons_of_step (by simp [step, h]) rest

/-- Blanks between two commands are passed over. -/
theorem run_blank_outside {c : Char} (h : isBlank c = true) (done : List Command)
    (rest : List Char) : run ⟨done, .outside⟩ (c :: rest) = run ⟨done, .outside⟩ rest :=
  run_cons_of_step (by simp [step, h]) rest

theorem run_indent (depth : Nat) (done : List Command) (k : Partial) (rest : List Char) :
    run ⟨done, .between k⟩ (List.replicate depth '\t' ++ rest) = run ⟨done, .between k⟩ rest := by
  induction depth with
  | zero => rfl
  | succ depth ih =>
    rw [List.replicate_succ, List.cons_append, run_blank (by decide), ih]

theorem run_indent_outside (depth : Nat) (done : List Command) (rest : List Char) :
    run ⟨done, .outside⟩ (List.replicate depth '\t' ++ rest) = run ⟨done, .outside⟩ rest := by
  induction depth with
  | zero => rfl
  | succ depth ih =>
    rw [List.replicate_succ, List.cons_append, run_blank_outside (by decide), ih]

/-! ## Quoted arguments -/

theorem run_quoteChar (c : Char) (done : List Command) (k : Partial) (value rest : List Char) :
    run ⟨done, .inQuotes k value⟩ (quoteChar c ++ rest)
      = run ⟨done, .inQuotes k (value ++ [c])⟩ rest := by
  unfold quoteChar
  by_cases hb : c = '\\'
  · subst hb
    rfl
  by_cases hq : c = '"'
  · subst hq
    rfl
  · simp only [hb, hq, decide_false, Bool.or_self, Bool.false_eq_true, if_false]
    exact run_cons_of_step (by simp [step, hb, hq]) rest

theorem run_quoteChars (text : List Char) (done : List Command) (k : Partial)
    (value rest : List Char) :
    run ⟨done, .inQuotes k value⟩ (text.flatMap quoteChar ++ rest)
      = run ⟨done, .inQuotes k (value ++ text)⟩ rest := by
  induction text generalizing value with
  | nil => rw [List.flatMap_nil, List.nil_append, List.append_nil]
  | cons c text ih =>
    rw [List.flatMap_cons, List.append_assoc, run_quoteChar, ih, List.append_assoc,
      List.singleton_append]

theorem run_quoted (text : List Char) (done : List Command) (k : Partial) (rest : List Char) :
    run ⟨done, .between k⟩ (quoted text ++ rest)
      = run ⟨done, .between (k.add [.quoted (String.ofList text)])⟩ rest := by
  have hopen : run ⟨done, .between k⟩ (quoted text ++ rest)
      = run ⟨done, .inQuotes k []⟩ (text.flatMap quoteChar ++ '"' :: rest) := by
    rw [quoted, List.cons_append, List.cons_append, List.append_assoc]
    exact run_cons_of_step rfl _
  rw [hopen, run_quoteChars, List.nil_append]
  exact run_cons_of_step rfl rest

/-! ## Bare arguments -/

theorem run_word {word : List Char} (h : IsWord word) (done : List Command) (k : Partial)
    (before rest : List Char) :
    run ⟨done, .inWord k before⟩ (word ++ rest)
      = run ⟨done, .inWord k (before ++ word)⟩ rest := by
  induction h generalizing before with
  | nil => rw [List.nil_append, List.append_nil]
  | @pair c tail _ ih =>
    have hpair : run ⟨done, .inWord k before⟩ ('\\' :: c :: (tail ++ rest))
        = run ⟨done, .inWord k (before ++ ['\\', c])⟩ (tail ++ rest) := rfl
    rw [List.cons_append, List.cons_append, hpair, ih, List.append_assoc]
    rfl
  | @char c tail hb he _ ih =>
    have hblank : isBlank c = false := by
      cases h : isBlank c with
      | false => rfl
      | true => simp [endsWord, h] at he
    have hclose : c ≠ ')' := by
      rintro rfl
      exact absurd he (by decide)
    have hstep : step ⟨done, .inWord k before⟩ c = some ⟨done, .inWord k (before ++ [c])⟩ := by
      simp [step, hblank, hclose, hb, he]
    rw [List.cons_append, run_cons_of_step hstep, ih, List.append_assoc, List.singleton_append]

/-- The first character decides that a bare argument has begun. -/
theorem run_word_start {word : List Char} (hne : word ≠ []) (h : IsWord word)
    (done : List Command) (k : Partial) (rest : List Char) :
    run ⟨done, .between k⟩ (word ++ rest) = run ⟨done, .inWord k word⟩ rest := by
  cases h with
  | nil => exact absurd rfl hne
  | @pair c tail htail =>
    have hpair : run ⟨done, .between k⟩ ('\\' :: c :: (tail ++ rest))
        = run ⟨done, .inWord k ['\\', c]⟩ (tail ++ rest) := rfl
    rw [List.cons_append, List.cons_append, hpair, run_word htail]
    rfl
  | @char c tail hb he htail =>
    have hends := he
    simp only [endsWord, Bool.or_eq_false_iff, decide_eq_false_iff_not] at hends
    obtain ⟨⟨⟨⟨⟨hblank, -⟩, hclose⟩, hquote⟩, -⟩, -⟩ := hends
    have hstep : step ⟨done, .between k⟩ c = some ⟨done, .inWord k [c]⟩ := by
      simp [step, hblank, hclose, hquote, hb, he]
    rw [List.cons_append, run_cons_of_step hstep, run_word htail]
    rfl

end Reading

/-! ## Texts that are read as arguments -/

/-- A reader takes the text for these arguments, once a blank or a closing bracket follows. -/
def Reads (text : List Char) (arguments : List Argument) : Prop :=
  ∀ (done : List Command) (k : Partial) (c : Char) (rest : List Char),
    isBlank c = true ∨ c = ')' →
      Reading.run ⟨done, .between k⟩ (text ++ c :: rest)
        = Reading.run ⟨done, .between (k.add arguments)⟩ (c :: rest)

theorem Partial.add_add (k : Partial) (xs ys : List Argument) :
    (k.add xs).add ys = k.add (xs ++ ys) := by
  simp [Partial.add]

theorem Partial.add_nil (k : Partial) : k.add [] = k := by
  simp [Partial.add]

theorem reads_nil : Reads [] [] := by
  intro done k c rest _
  rw [Partial.add_nil, List.nil_append]

theorem reads_quoted (text : List Char) : Reads (quoted text) [.quoted (String.ofList text)] :=
  fun done k c rest _ => Reading.run_quoted text done k (c :: rest)

theorem reads_word {word : List Char} (hne : word ≠ []) (h : IsWord word) :
    Reads word [.ofWord word] := by
  intro done k c rest hc
  rw [Reading.run_word_start hne h]
  -- The character behind the word ends it, and is then read again between two arguments.
  rcases hc with hc | rfl
  · rw [Reading.run_blank hc]
    exact Reading.run_cons_of_step (by simp [Reading.step, hc]) rest
  · exact Reading.run_cons_of_step rfl rest

/-- Blanks stand between arguments, whichever they are. -/
theorem Reads.blank {x y : List Char} {xs ys : List Argument} (hx : Reads x xs)
    (hy : Reads y ys) {b : Char} (hb : isBlank b = true) : Reads (x ++ b :: y) (xs ++ ys) := by
  intro done k c rest hc
  rw [List.append_assoc, List.cons_append, hx done k b _ (Or.inl hb),
    Reading.run_blank hb, hy done _ c rest hc, Partial.add_add]

theorem Reads.space {x y : List Char} {xs ys : List Argument} (hx : Reads x xs)
    (hy : Reads y ys) : Reads (x ++ ' ' :: y) (xs ++ ys) :=
  hx.blank hy (by decide)

/-! ## Words of the language -/

/-- A text that a reader takes for a bare argument without any escape. -/
def IsKeyword (word : String) : Prop :=
  word.toList ≠ [] ∧ ∀ c ∈ word.toList, c ≠ '$' ∧ c ≠ '\\' ∧ endsWord c = false

instance (word : String) : Decidable (IsKeyword word) :=
  @instDecidableAnd _ _ _ (List.decidableBAll _ word.toList)

theorem IsKeyword.isWord {word : String} (h : IsKeyword word) : IsWord word.toList :=
  IsPlain.isWord fun c hc => (h.2 c hc).2

theorem IsKeyword.reads {word : String} (h : IsKeyword word) : Reads word.toList [.bare word] := by
  have hword : Argument.ofWord word.toList = .bare word := by
    rw [ofWord_eq_bare (fun hd => (h.2 _ hd).1 rfl) (fun hb => (h.2 _ hb).2.1 rfl),
      String.ofList_toList]
  rw [← hword]
  exact reads_word h.1 h.isWord

/-- A text that a reader takes for the name of a command. -/
def IsCommandName (name : String) : Prop :=
  name.toList ≠ [] ∧ ∀ c ∈ name.toList, isCommandChar c = true

instance (name : String) : Decidable (IsCommandName name) :=
  @instDecidableAnd _ _ _ (List.decidableBAll _ name.toList)

theorem endsWord_of_isNameChar {c : Char} (h : Store.isNameChar c = true) :
    c ≠ '$' ∧ c ≠ '\\' ∧ c ≠ '>' ∧ endsWord c = false := by
  refine ⟨?_, ?_, ?_, ?_⟩
  · rintro rfl
    exact absurd h (by decide)
  · rintro rfl
    exact absurd h (by decide)
  · rintro rfl
    exact absurd h (by decide)
  · cases he : endsWord c with
    | false => rfl
    | true =>
      simp only [endsWord, isBlank, Bool.or_eq_true, decide_eq_true_eq] at he
      rcases he with (((((((rfl | rfl) | rfl) | rfl) | rfl) | rfl) | rfl) | rfl) | rfl <;>
        exact absurd h (by decide)

theorem isNameChar_of_isConfigurationName {name : String}
    (h : Store.isConfigurationName name = true) :
    name.toList ≠ [] ∧ ∀ c ∈ name.toList, Store.isNameChar c = true := by
  simp only [Store.isConfigurationName, Bool.and_eq_true, decide_eq_true_eq,
    List.all_eq_true] at h
  exact ⟨by simpa using h.1, h.2⟩

/-- What can stand in a guard can stand in a condition. -/
theorem isKeyword_of_isConfigurationName {name : String}
    (h : Store.isConfigurationName name = true) : IsKeyword name := by
  obtain ⟨hne, hall⟩ := isNameChar_of_isConfigurationName h
  refine ⟨hne, fun c hc => ?_⟩
  obtain ⟨hd, hb, -, he⟩ := endsWord_of_isNameChar (hall c hc)
  exact ⟨hd, hb, he⟩

theorem isKeyword_repr (n : Nat) : IsKeyword n.repr := by
  refine ⟨by rw [Nat.toList_repr]; exact Nat.toDigits_ne_nil, fun c hc => ?_⟩
  rw [Nat.toList_repr] at hc
  have hdigit : c.isDigit = true := Nat.isDigit_of_mem_toDigits (by decide) (by decide) hc
  have hname : Store.isNameChar c = true := by
    simp [Store.isNameChar, Char.isAlphanum, hdigit]
  obtain ⟨hd, hb, -, he⟩ := endsWord_of_isNameChar hname
  exact ⟨hd, hb, he⟩

theorem isKeyword_yesNo (b : Bool) : IsKeyword (yesNo b) := by
  cases b <;> decide

theorem isKeyword_trueFalse (b : Bool) : IsKeyword (trueFalse b) := by
  cases b <;> decide

/-! ## Values -/

theorem reads_guarded {configuration value : String}
    (h : Store.isConfigurationName configuration = true) (h0 : '\x00' ∉ value.toList)
    (hr : '\r' ∉ value.toList) :
    Reads (guarded configuration.toList (literal value.toList))
      [.guarded configuration value] := by
  obtain ⟨-, hall⟩ := isNameChar_of_isConfigurationName h
  have hclose : '>' ∉ configuration.toList :=
    fun hc => (endsWord_of_isNameChar (hall _ hc)).2.2.1 rfl
  have hword : Argument.ofWord (guarded configuration.toList (literal value.toList))
      = .guarded configuration value := by
    rw [ofWord_guarded hclose h0, String.ofList_toList, String.ofList_toList]
  rw [← hword]
  have hne : guarded configuration.toList (literal value.toList) ≠ [] :=
    List.append_ne_nil_of_right_ne_nil _ (by decide)
  exact reads_word hne
    (isWord_guarded (isKeyword_of_isConfigurationName h).isWord (isWord_literal h0 hr))

theorem reads_unquoted {value : String} (hne : value ≠ "") (hr : '\r' ∉ value.toList) :
    Reads (unquoted value.toList) [.bare value] := by
  have hword : Argument.ofWord (unquoted value.toList) = .bare value := by
    rw [ofWord_unquoted, String.ofList_toList]
  rw [← hword]
  refine reads_word ?_ (isWord_unquoted hr)
  -- Nothing is written for no value at all, and for a character something always is.
  intro hnil
  rw [unquoted, List.flatMap_eq_nil_iff] at hnil
  obtain ⟨c, rest, hc⟩ := List.exists_cons_of_ne_nil (show value.toList ≠ [] by simpa using hne)
  have := hnil c (by simp [hc])
  rcases escapeChar_cases c with ⟨-, h⟩ | ⟨-, h⟩ | ⟨-, h⟩ | ⟨-, -, -, h⟩ <;> simp [h] at this

/-! ## Lines -/

namespace Reading

/-- A line of arguments. -/
theorem run_line {text : List Char} {arguments : List Argument} (h : Reads text arguments)
    (depth : Nat) (done : List Command) (k : Partial) (rest : List Char) :
    run ⟨done, .between k⟩ ((⟨depth, text⟩ : Line).toChars ++ rest)
      = run ⟨done, .between (k.add arguments)⟩ rest := by
  rw [Line.toChars, List.append_assoc, List.append_assoc, run_indent, List.singleton_append,
    h done k '\n' rest (Or.inl rfl), run_blank (by decide)]

/-- Lines of arguments, one for each item of a list. -/
theorem run_lines {α : Type} {text : α → List Char} {arguments : α → List Argument}
    {items : List α} (h : ∀ x ∈ items, Reads (text x) (arguments x)) (depth : Nat)
    (done : List Command) (k : Partial) (rest : List Char) :
    run ⟨done, .between k⟩
        ((items.map fun x => (⟨depth, text x⟩ : Line)).flatMap Line.toChars ++ rest)
      = run ⟨done, .between (k.add (items.flatMap arguments))⟩ rest := by
  induction items generalizing k with
  | nil => rw [List.flatMap_nil, Partial.add_nil]; rfl
  | cons x items ih =>
    rw [List.map_cons, List.flatMap_cons, List.append_assoc,
      run_line (h x List.mem_cons_self), ih fun y hy => h y (List.mem_cons_of_mem x hy),
      Partial.add_add, List.flatMap_cons]

theorem run_naming {name : List Char} (h : ∀ c ∈ name, isCommandChar c = true)
    (done : List Command) (before rest : List Char) :
    run ⟨done, .naming before⟩ (name ++ '(' :: rest)
      = run ⟨done, .between { name := before ++ name }⟩ rest := by
  induction name generalizing before with
  | nil =>
    rw [List.nil_append, List.append_nil]
    exact run_cons_of_step rfl rest
  | cons c name ih =>
    have hstep : step ⟨done, .naming before⟩ c = some ⟨done, .naming (before ++ [c])⟩ := by
      simp [step, h c List.mem_cons_self]
    rw [List.cons_append, run_cons_of_step hstep, ih fun d hd => h d (List.mem_cons_of_mem c hd),
      List.append_assoc, List.singleton_append]

/-- The name of a command and its opening bracket. -/
theorem run_name {name : String} (h : IsCommandName name) (done : List Command)
    (rest : List Char) :
    run ⟨done, .outside⟩ (name.toList ++ '(' :: rest)
      = run ⟨done, .between { name := name.toList }⟩ rest := by
  obtain ⟨hne, hall⟩ := h
  obtain ⟨c, tail, hc⟩ := List.exists_cons_of_ne_nil hne
  rw [hc] at hall ⊢
  have hchar : isCommandChar c = true := hall c List.mem_cons_self
  have hblank : isBlank c = false := by
    cases hb : isBlank c with
    | false => rfl
    | true =>
      simp only [isBlank, Bool.or_eq_true, decide_eq_true_eq] at hb
      rcases hb with ((rfl | rfl) | rfl) | rfl <;> exact absurd hchar (by decide)
  have hstep : step ⟨done, .outside⟩ c = some ⟨done, .naming [c]⟩ := by
    simp [step, hblank, hchar]
  rw [List.cons_append, run_cons_of_step hstep,
    run_naming fun d hd => hall d (List.mem_cons_of_mem c hd)]
  rfl

/-- The line that closes a command. -/
theorem run_closeLine (depth : Nat) (done : List Command) (k : Partial) (rest : List Char) :
    run ⟨done, .between k⟩ ((⟨depth, closeCommand⟩ : Line).toChars ++ rest)
      = run ⟨done ++ [k.command], .outside⟩ rest := by
  rw [Line.toChars, List.append_assoc, List.append_assoc, run_indent]
  exact (run_cons_of_step rfl _).trans (run_blank_outside (by decide) _ rest)

end Reading

end CMakeGen.Script
