import CMakeGen.Proofs.Script.Escape

/-!
# Escaping a text as a whole

The written forms of a bare argument are given character by character (`Script/Escape.lean`). They
can also be had by replacements in the text as a whole, one after the other, each of which works on
what the one before it leaves. **The two agree as long as no replacement touches what an earlier one
wrote** (`replaceChars_eq_flatMap`), which is a matter of order: the backslash goes first, since all
others write one.

A value inside a guard needs two rounds. Its `>` and `,` are to become expressions, whose dollar
sign must not be escaped, so they are marked before the characters are escaped and the marks are
replaced afterwards (`literal_eq_replacements`). A mark is a pair of characters, U+0000 and a letter,
and a value that holds such a pair holds a mark that nobody has put there.
-/

namespace CMakeGen.Script

/-! ## Characters -/

/-- A text with a character replaced, wherever it stands. -/
def replaceChar (c : Char) (written text : List Char) : List Char :=
  text.flatMap fun d => if d = c then written else [d]

/-- A text after replacements, the first of the table coming first. -/
def replaceChars (table : List (Char × List Char)) (text : List Char) : List Char :=
  table.foldl (fun text entry => replaceChar entry.1 entry.2 text) text

/-- No replacement of the table touches what an earlier one wrote. -/
def Undisturbed (table : List (Char × List Char)) : Prop :=
  table.Pairwise fun earlier later => later.1 ∉ earlier.2

instance (table : List (Char × List Char)) : Decidable (Undisturbed table) :=
  List.instDecidablePairwise table

theorem replaceChar_of_not_mem {c : Char} {text : List Char} (h : c ∉ text)
    (written : List Char) : replaceChar c written text = text := by
  induction text with
  | nil => rfl
  | cons d text ih =>
    rw [List.mem_cons, not_or] at h
    obtain ⟨hd, htext⟩ := h
    rw [replaceChar, List.flatMap_cons, if_neg (Ne.symm hd)]
    exact congrArg (d :: ·) (ih htext)

theorem replaceChars_append (table : List (Char × List Char)) (xs ys : List Char) :
    replaceChars table (xs ++ ys) = replaceChars table xs ++ replaceChars table ys := by
  induction table generalizing xs ys with
  | nil => rfl
  | cons entry table ih =>
    simp only [replaceChars, List.foldl_cons, replaceChar, List.flatMap_append] at ih ⊢
    exact ih _ _

theorem replaceChars_of_not_mem {table : List (Char × List Char)} {text : List Char}
    (h : ∀ entry ∈ table, entry.1 ∉ text) : replaceChars table text = text := by
  induction table with
  | nil => rfl
  | cons entry table ih =>
    rw [replaceChars, List.foldl_cons, replaceChar_of_not_mem (h entry List.mem_cons_self)]
    exact ih fun other hother => h other (List.mem_cons_of_mem entry hother)

/-- What is written for a character stays as it is until the end. -/
theorem replaceChars_singleton {table : List (Char × List Char)} (h : Undisturbed table)
    (c : Char) : replaceChars table [c] = (table.lookup c).getD [c] := by
  induction table with
  | nil => rfl
  | cons entry table ih =>
    obtain ⟨d, written⟩ := entry
    obtain ⟨hfirst, htable⟩ := List.pairwise_cons.mp h
    rw [List.lookup_cons, replaceChars, List.foldl_cons]
    by_cases hc : c = d
    · subst hc
      have hwritten : replaceChar c written [c] = written := by simp [replaceChar]
      simp only [hwritten, beq_self_eq_true, Option.getD_some]
      exact replaceChars_of_not_mem hfirst
    · have hwritten : replaceChar d written [c] = [c] := by simp [replaceChar, hc]
      simp only [hwritten, beq_eq_false_iff_ne.mpr hc]
      exact ih htable

/-- **Replacements that leave each other alone go character by character.** -/
theorem replaceChars_eq_flatMap {table : List (Char × List Char)} (h : Undisturbed table)
    (text : List Char) :
    replaceChars table text = text.flatMap fun c => (table.lookup c).getD [c] := by
  induction text with
  | nil => exact replaceChars_of_not_mem fun _ _ => List.not_mem_nil
  | cons c text ih =>
    rw [← List.singleton_append, replaceChars_append, replaceChars_singleton h, ih]
    rfl

/-- The characters that a bare argument cannot hold as they are, and what is written for them. -/
def escapes : List (Char × List Char) :=
  [('\\', ['\\', '\\']), ('"', ['\\', '"']), ('$', ['\\', '$']), (';', ['\\', ';']),
    ('#', ['\\', '#']), ('(', ['\\', '(']), (')', ['\\', ')']), (' ', ['\\', ' ']),
    ('\t', ['\\', 't']), ('\n', ['\\', 'n'])]

theorem undisturbed_escapes : Undisturbed escapes := by decide

/-- With the backslash last, it would be doubled where an earlier replacement has put it. -/
example : ¬ Undisturbed [(' ', ['\\', ' ']), ('\\', ['\\', '\\'])] := by decide

theorem lookup_escapes (c : Char) : (escapes.lookup c).getD [c] = escapeChar c := by
  rcases escapeChar_cases c with ⟨rfl, h⟩ | ⟨rfl, h⟩ | ⟨hr, h⟩ | ⟨ht, hn, hr, h⟩
  · rw [h]; rfl
  · rw [h]; rfl
  · simp only [isReserved, Bool.or_eq_true, decide_eq_true_eq] at hr
    rw [h]
    rcases hr with ((((((rfl | rfl) | rfl) | rfl) | rfl) | rfl) | rfl) | rfl <;> rfl
  · have hnone : escapes.lookup c = none := by
      simp only [isReserved, Bool.or_eq_false_iff, decide_eq_false_iff_not] at hr
      simp [escapes, Association.lookup_cons_eq_ite, ht, hn, hr]
    rw [h, hnone, Option.getD_none]

theorem unquoted_eq_replaceChars (value : List Char) :
    unquoted value = replaceChars escapes value := by
  rw [replaceChars_eq_flatMap undisturbed_escapes, unquoted]
  exact List.flatMap_congr fun c _ => (lookup_escapes c).symm

/-! ## Marks -/

/-- A text with a pair of characters replaced, wherever it stands, from left to right. -/
def replacePair (a b : Char) (written : List Char) : List Char → List Char
  | x :: y :: rest =>
    if x = a ∧ y = b then written ++ replacePair a b written rest
    else x :: replacePair a b written (y :: rest)
  | text => text

/-- A character with a mark in its place, if an expression is to be written for it. -/
def markChar (c : Char) : List Char :=
  if c = '>' then ['\x00', 'R'] else if c = ',' then ['\x00', 'C'] else [c]

def marked (value : List Char) : List Char := value.flatMap markChar

/-- A text with the expressions in place of the marks. -/
def unmarked (text : List Char) : List Char :=
  replacePair '\x00' 'C' commaExpression (replacePair '\x00' 'R' angleExpression text)

section

variable {a b : Char} {written : List Char}

theorem replacePair_self (rest : List Char) :
    replacePair a b written (a :: b :: rest) = written ++ replacePair a b written rest := by
  rw [replacePair, if_pos ⟨rfl, rfl⟩]

theorem replacePair_cons {c : Char} {rest : List Char} (h : ¬ (c = a ∧ rest.head? = some b)) :
    replacePair a b written (c :: rest) = c :: replacePair a b written rest := by
  cases rest with
  | nil => rfl
  | cons d rest =>
    have hpair : ¬ (c = a ∧ d = b) := by simpa using h
    rw [replacePair, if_neg hpair]

theorem replacePair_append {before : List Char} (h : a ∉ before) (rest : List Char) :
    replacePair a b written (before ++ rest) = before ++ replacePair a b written rest := by
  induction before with
  | nil => rfl
  | cons c before ih =>
    rw [List.mem_cons, not_or] at h
    obtain ⟨hc, hbefore⟩ := h
    rw [List.cons_append, replacePair_cons fun hpair => hc hpair.1.symm, ih hbefore]
    rfl

theorem head?_replacePair {d : Char} {text : List Char} (htext : text.head? ≠ some d)
    (hne : written ≠ []) (hwritten : written.head? ≠ some d) :
    (replacePair a b written text).head? ≠ some d := by
  cases text with
  | nil => exact htext
  | cons x text =>
    by_cases hpair : x = a ∧ text.head? = some b
    · obtain ⟨rfl, hhead⟩ := hpair
      obtain ⟨rest, rfl⟩ := List.head?_eq_some_iff.mp hhead
      rw [replacePair_self, List.head?_append_of_ne_nil _ hne]
      exact hwritten
    · rw [replacePair_cons hpair]
      exact htext

end

theorem unmarked_append {before : List Char} (h : '\x00' ∉ before) (rest : List Char) :
    unmarked (before ++ rest) = before ++ unmarked rest := by
  rw [unmarked, replacePair_append h, replacePair_append h, unmarked]

theorem unmarked_angle (rest : List Char) :
    unmarked ('\x00' :: 'R' :: rest) = angleExpression ++ unmarked rest := by
  rw [unmarked, replacePair_self, replacePair_append (by decide), unmarked]

theorem unmarked_comma (rest : List Char) :
    unmarked ('\x00' :: 'C' :: rest) = commaExpression ++ unmarked rest := by
  have hinner : replacePair '\x00' 'R' angleExpression ('\x00' :: 'C' :: rest)
      = '\x00' :: 'C' :: replacePair '\x00' 'R' angleExpression rest := by
    rw [replacePair_cons (by simp), replacePair_cons (by simp)]
  rw [unmarked, hinner, replacePair_self, unmarked]

/-- U+0000 is no mark on its own, and none comes about in the first round. -/
theorem unmarked_null {rest : List Char} (hangle : rest.head? ≠ some 'R')
    (hcomma : rest.head? ≠ some 'C') : unmarked ('\x00' :: rest) = '\x00' :: unmarked rest := by
  have hinner : (replacePair '\x00' 'R' angleExpression rest).head? ≠ some 'C' :=
    head?_replacePair hcomma (by decide) (by decide)
  rw [unmarked, replacePair_cons fun hpair => hangle hpair.2,
    replacePair_cons fun hpair => hinner hpair.2, unmarked]

/-! ## Values inside a guard -/

theorem null_not_mem_escapeChar {c : Char} (h : c ≠ '\x00') : '\x00' ∉ escapeChar c := by
  rcases escapeChar_cases c with ⟨-, he⟩ | ⟨-, he⟩ | ⟨-, he⟩ | ⟨-, -, -, he⟩ <;>
    simp [he, Ne.symm h]

theorem head?_escapeChar (c : Char) (rest : List Char) :
    (escapeChar c ++ rest).head? = some '\\' ∨ (escapeChar c ++ rest).head? = some c := by
  rcases escapeChar_cases c with ⟨-, he⟩ | ⟨-, he⟩ | ⟨-, he⟩ | ⟨-, -, -, he⟩ <;> simp [he]

theorem unquoted_singleton (c : Char) : unquoted [c] = escapeChar c :=
  List.append_nil (escapeChar c)

theorem unquoted_marked_cons (c : Char) (rest : List Char) :
    unquoted (marked (c :: rest)) = unquoted (markChar c) ++ unquoted (marked rest) := by
  rw [marked, List.flatMap_cons, unquoted, List.flatMap_append]
  rfl

/-- A letter behind U+0000 is there in the value too. -/
theorem head?_unquoted_marked {d : Char} (hnull : d ≠ '\x00') (hback : d ≠ '\\')
    {value : List Char} (h : value.head? ≠ some d) :
    (unquoted (marked value)).head? ≠ some d := by
  cases value with
  | nil => exact h
  | cons c value =>
    rw [unquoted_marked_cons, markChar]
    split
    · exact fun heq => hnull (Option.some.inj heq).symm
    split
    · exact fun heq => hnull (Option.some.inj heq).symm
    · rw [unquoted_singleton]
      rcases head?_escapeChar c (unquoted (marked value)) with hhead | hhead
      · rw [hhead]
        exact fun heq => hback (Option.some.inj heq).symm
      · rw [hhead]
        exact h

/-- **Marking, escaping and writing the expressions gives the literal form**, of every value. -/
theorem literal_eq_replacements (value : List Char) :
    literal value = unmarked (replaceChars escapes (marked value)) := by
  rw [← unquoted_eq_replaceChars]
  induction value using mark_induction with
  | nil => rfl
  | angle rest ih =>
    rw [literal, ih]
    exact (unmarked_angle _).symm
  | comma rest ih =>
    rw [literal, ih]
    exact (unmarked_comma _).symm
  | char c rest hmark ih =>
    rw [literal_of_not_startsMark hmark, ih, unquoted_marked_cons, literalChar, markChar]
    split
    · exact (unmarked_angle _).symm
    split
    · exact (unmarked_comma _).symm
    rw [unquoted_singleton]
    by_cases hc : c = '\x00'
    · subst hc
      have hhead {d : Char} (hnull : d ≠ '\x00') (hback : d ≠ '\\')
          (hd : rest.head? = some d → StartsMark '\x00' rest) :
          (unquoted (marked rest)).head? ≠ some d :=
        head?_unquoted_marked hnull hback fun h => hmark (hd h)
      exact (unmarked_null (hhead (by decide) (by decide) fun h => ⟨rfl, .inl h⟩)
        (hhead (by decide) (by decide) fun h => ⟨rfl, .inr h⟩)).symm
    · exact (unmarked_append (null_not_mem_escapeChar hc) _).symm

end CMakeGen.Script
