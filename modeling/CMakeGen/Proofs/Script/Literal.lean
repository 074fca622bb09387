import CMakeGen.Proofs.Script.Replacement

/-!
# What the literal form keeps of a value

Inside a guard each character of a value has a written form of its own (`literalChar`), and a text
that is written character by character (`translated`) tells everything about the value: reading it
gives the value back, and what is written for two values in a row is written for the one that they
make up.

**The literal form is that text iff the value holds no mark** (`literal_onePass`). A mark is
`U+0000 R` or `U+0000 C`, and what is written for it is what is written for `>` or `,`. So the literal
form is always the one of the value with these characters in place of its marks (`settled`), and the
laws of `translated` hold for it up to that: two values are confused iff they settle to the same one,
and the form of a value in two parts is the parts' forms iff no mark stands across the cut.
-/

namespace CMakeGen.Script

/-! ## Character by character -/

theorem translated_append (value other : List Char) :
    translated (value ++ other) = translated value ++ translated other :=
  List.flatMap_append

theorem translated_inj {value other : List Char} :
    translated value = translated other ↔ value = other := by
  constructor
  · intro h
    rw [← plainValue_translated value, h, plainValue_translated]
  · intro h
    rw [h]

/-! ## Dollar signs -/

/-- Whether a text ends in a backslash that takes the next character with it. -/
def endsOpen : List Char → Bool
  | ['\\'] => true
  | '\\' :: _ :: rest => endsOpen rest
  | _ :: rest => endsOpen rest
  | [] => false

theorem endsOpen_pair (c : Char) (rest : List Char) :
    endsOpen ('\\' :: c :: rest) = endsOpen rest := by
  rw [endsOpen]

theorem endsOpen_cons {c : Char} (h : c ≠ '\\') (rest : List Char) :
    endsOpen (c :: rest) = endsOpen rest := by
  conv_lhs => unfold endsOpen
  split <;> simp_all

theorem endsOpen_append {before : List Char} (h : '\\' ∉ before) (rest : List Char) :
    endsOpen (before ++ rest) = endsOpen rest := by
  induction before with
  | nil => rfl
  | cons c before ih =>
    rw [List.mem_cons, not_or] at h
    rw [List.cons_append, endsOpen_cons (Ne.symm h.1), ih h.2]

theorem endsOpen_literalChar (c : Char) (rest : List Char) :
    endsOpen (literalChar c ++ rest) = endsOpen rest := by
  unfold literalChar
  split
  · exact endsOpen_append (by decide) rest
  split
  · exact endsOpen_append (by decide) rest
  rcases escapeChar_cases c with ⟨-, h⟩ | ⟨-, h⟩ | ⟨-, h⟩ | ⟨-, -, hr, h⟩
  · rw [h]; exact endsOpen_pair _ rest
  · rw [h]; exact endsOpen_pair _ rest
  · rw [h]; exact endsOpen_pair _ rest
  · rw [h]; exact endsOpen_cons (ne_backslash_of_not_isReserved hr) rest

theorem endsOpen_translated (value : List Char) : endsOpen (translated value) = false := by
  induction value with
  | nil => rfl
  | cons c value ih => rw [translated_cons, endsOpen_literalChar, ih]

/-- Only the expressions have a dollar sign of their own, and it comes first. -/
theorem eq_nil_of_literalChar {c : Char} {before after : List Char}
    (h : literalChar c = before ++ '$' :: after) (hopen : endsOpen before = false) :
    before = [] ∧ (c = '>' ∨ c = ',') := by
  have hexpression {word : List Char} (hword : '$' ∉ word)
      (heq : '$' :: word = before ++ '$' :: after) : before = [] := by
    cases before with
    | nil => rfl
    | cons d before =>
      obtain ⟨-, htail⟩ := List.cons.inj heq
      exact absurd (htail ▸ List.mem_append_right before List.mem_cons_self) hword
  unfold literalChar at h
  split at h
  · next hc =>
    have hword : '$' ∉ "<ANGLE-R>".toList := by decide
    exact ⟨hexpression hword h, .inl hc⟩
  split at h
  · next hc =>
    have hword : '$' ∉ "<COMMA>".toList := by decide
    exact ⟨hexpression hword h, .inr hc⟩
  -- Behind a backslash the dollar sign is part of a pair.
  have hpair {d : Char} (heq : ['\\', d] = before ++ '$' :: after) : False := by
    cases before with
    | nil => exact absurd (List.cons.inj heq).1 (by decide)
    | cons x before =>
      obtain ⟨rfl, htail⟩ := List.cons.inj heq
      cases before with
      | nil => cases hopen
      | cons y before => simp at htail
  rcases escapeChar_cases c with ⟨-, he⟩ | ⟨-, he⟩ | ⟨-, he⟩ | ⟨-, -, hr, he⟩
  · exact (hpair (he ▸ h)).elim
  · exact (hpair (he ▸ h)).elim
  · exact (hpair (he ▸ h)).elim
  · rw [he] at h
    cases before with
    | nil =>
      obtain ⟨rfl, -⟩ := List.cons.inj h
      exact absurd hr (by decide)
    | cons x before => simp at h

/-- A character of the value that is written as an expression, with what is written around it. -/
def StandsAt (value before after : List Char) : Prop :=
  ∃ start c rest, value = start ++ c :: rest ∧ before = translated start ∧
    (c = '>' ∧ after = angleExpression ++ translated rest ∨
      c = ',' ∧ after = commaExpression ++ translated rest)

theorem standsAt_of_dollar {value before after : List Char}
    (h : translated value = before ++ '$' :: after) (hopen : endsOpen before = false) :
    StandsAt value before ('$' :: after) := by
  induction value generalizing before with
  | nil => simp at h
  | cons c value ih =>
    rw [translated_cons] at h
    -- The dollar sign is behind what is written for `c`, or in it.
    have hbehind {tail : List Char} (hbefore : before = literalChar c ++ tail)
        (htail : translated value = tail ++ '$' :: after) :
        StandsAt (c :: value) before ('$' :: after) := by
      rw [hbefore, endsOpen_literalChar] at hopen
      obtain ⟨start, d, rest, rfl, rfl, hd⟩ := ih htail hopen
      exact ⟨c :: start, d, rest, rfl, hbefore, hd⟩
    rcases List.append_eq_append_iff.mp h with ⟨tail, hbefore, htail⟩ | ⟨tail, hc, hafter⟩
    · exact hbehind hbefore htail
    · cases tail with
      | nil =>
        have hbefore : before = literalChar c ++ [] := by
          rw [hc, List.append_nil, List.append_nil]
        exact hbehind hbefore hafter.symm
      | cons x tail =>
        obtain ⟨rfl, -⟩ := List.cons.inj hafter
        obtain ⟨rfl, hcases⟩ := eq_nil_of_literalChar hc hopen
        refine ⟨[], c, value, rfl, rfl, ?_⟩
        rw [hafter, ← List.nil_append ('$' :: tail), ← hc]
        rcases hcases with rfl | rfl
        · exact .inl ⟨rfl, rfl⟩
        · exact .inr ⟨rfl, rfl⟩

/-- **The dollar signs without a backslash are those of the expressions**, one for each `>` and `,`. -/
theorem dollar_iff_standsAt (value before after : List Char) :
    translated value = before ++ '$' :: after ∧ endsOpen before = false ↔
      StandsAt value before ('$' :: after) := by
  constructor
  · rintro ⟨h, hopen⟩
    exact standsAt_of_dollar h hopen
  · rintro ⟨start, c, rest, rfl, rfl, hc⟩
    refine ⟨?_, endsOpen_translated start⟩
    rw [translated_append, translated_cons]
    rcases hc with ⟨rfl, hafter⟩ | ⟨rfl, hafter⟩
    · rw [hafter]; rfl
    · rw [hafter]; rfl

/-! ## Marks in a value -/

/-- A value with the characters in place of its marks. -/
def settled : List Char → List Char
  | [] => []
  | '\x00' :: 'R' :: rest => '>' :: settled rest
  | '\x00' :: 'C' :: rest => ',' :: settled rest
  | c :: rest => c :: settled rest

/-- Somewhere in the value there is a mark. -/
def HoldsMark (value : List Char) : Prop :=
  ['\x00', 'R'] <:+: value ∨ ['\x00', 'C'] <:+: value

/-- A mark has its two characters on either side of a cut. -/
def MarkAcross (value other : List Char) : Prop :=
  value.getLast? = some '\x00' ∧ (other.head? = some 'R' ∨ other.head? = some 'C')

theorem settled_cons_iff {c : Char} {rest : List Char} :
    settled (c :: rest) = c :: settled rest ↔ ¬ StartsMark c rest := by
  constructor
  · rintro h ⟨rfl, hhead | hhead⟩
    · obtain ⟨tail, rfl⟩ := List.head?_eq_some_iff.mp hhead
      exact absurd (List.cons.inj h).1 (by decide)
    · obtain ⟨tail, rfl⟩ := List.head?_eq_some_iff.mp hhead
      exact absurd (List.cons.inj h).1 (by decide)
  · intro h
    rw [settled]
    · intro tail hnull htail
      exact h ⟨hnull, .inl (by rw [htail]; rfl)⟩
    · intro tail hnull htail
      exact h ⟨hnull, .inr (by rw [htail]; rfl)⟩

theorem literal_eq_translated_settled (value : List Char) :
    literal value = translated (settled value) := by
  induction value using mark_induction with
  | nil => rfl
  | angle rest ih => rw [literal, ih]; rfl
  | comma rest ih => rw [literal, ih]; rfl
  | char c rest hmark ih =>
    rw [literal_of_not_startsMark hmark, settled_cons_iff.mpr hmark, ih, translated_cons]

theorem holdsMark_cons_iff {c : Char} {rest : List Char} (h : ¬ StartsMark c rest) :
    HoldsMark (c :: rest) ↔ HoldsMark rest := by
  have hstart {d : Char} (hd : rest.head? = some d → StartsMark '\x00' rest) :
      ['\x00', d] <:+: c :: rest ↔ ['\x00', d] <:+: rest := by
    rw [List.infix_cons_iff, List.cons_prefix_cons]
    refine or_iff_right ?_
    rintro ⟨rfl, tail, rfl⟩
    exact h (hd rfl)
  unfold HoldsMark
  rw [hstart fun hhead => ⟨rfl, .inl hhead⟩, hstart fun hhead => ⟨rfl, .inr hhead⟩]

theorem settled_eq_self_iff {value : List Char} : settled value = value ↔ ¬ HoldsMark value := by
  induction value using mark_induction with
  | nil => simp [settled, HoldsMark]
  | angle rest _ =>
    have hmark : HoldsMark ('\x00' :: 'R' :: rest) := .inl ⟨[], rest, rfl⟩
    refine iff_of_false (fun h => ?_) (not_not_intro hmark)
    exact absurd (List.cons.inj h).1 (by decide)
  | comma rest _ =>
    have hmark : HoldsMark ('\x00' :: 'C' :: rest) := .inr ⟨[], rest, rfl⟩
    refine iff_of_false (fun h => ?_) (not_not_intro hmark)
    exact absurd (List.cons.inj h).1 (by decide)
  | char c rest hmark ih =>
    rw [settled_cons_iff.mpr hmark, holdsMark_cons_iff hmark, ← ih, List.cons.injEq]
    exact and_iff_right rfl

theorem getLast?_pair {c d : Char} (h : d ≠ '\x00') (rest : List Char) :
    (c :: d :: rest).getLast? = some '\x00' ↔ rest.getLast? = some '\x00' := by
  cases rest with
  | nil => simp [h]
  | cons e rest => simp [List.getLast?_cons_cons]

theorem settled_append_iff {value other : List Char} :
    settled (value ++ other) = settled value ++ settled other ↔ ¬ MarkAcross value other := by
  induction value using mark_induction with
  | nil => simp [settled, MarkAcross]
  | angle rest ih =>
    rw [MarkAcross, getLast?_pair (by decide), ← MarkAcross, ← ih]
    exact List.cons_inj_right '>'
  | comma rest ih =>
    rw [MarkAcross, getLast?_pair (by decide), ← MarkAcross, ← ih]
    exact List.cons_inj_right ','
  | char c rest hmark ih =>
    cases rest with
    | nil =>
      have hlast : MarkAcross [c] other ↔ StartsMark c other := by
        simp [MarkAcross, StartsMark]
      have hsingle : settled [c] = [c] := settled_cons_iff.mpr hmark
      rw [hlast, ← settled_cons_iff, hsingle]
      rfl
    | cons d rest =>
      have hlast : MarkAcross (c :: d :: rest) other ↔ MarkAcross (d :: rest) other := by
        simp [MarkAcross, List.getLast?_cons_cons]
      have hjoined : settled (c :: (d :: rest ++ other)) = c :: settled (d :: rest ++ other) :=
        settled_cons_iff.mpr hmark
      rw [hlast, ← ih, List.cons_append, hjoined, settled_cons_iff.mpr hmark]
      exact List.cons_inj_right c

/-! ## The literal form -/

/-- What is true of the literal form of a value. -/
structure OnePass (value : List Char) : Prop where
  /-- It is had by marking, escaping in ten rounds and replacing the marks. -/
  replacements : literal value = unmarked (replaceChars escapes (marked value))
  /-- It is written character by character where no mark is in the way. -/
  translation : literal value = translated value ↔ ¬ HoldsMark value
  /-- In any case it is that of a value without marks, which is the same one if there is none. -/
  marks : literal value = translated (settled value)
  unchanged : settled value = value ↔ ¬ HoldsMark value
  append : ∀ other, literal (value ++ other) = literal value ++ literal other ↔
    ¬ MarkAcross value other
  injective : ∀ other, literal value = literal other ↔ settled value = settled other
  /-- A dollar sign without a backslash comes from one `>` or `,`, and each of them has one. -/
  dollars : ∀ before after,
    literal value = before ++ '$' :: after ∧ endsOpen before = false ↔
      StandsAt (settled value) before ('$' :: after)

/-- **The literal form is the one-pass translation, iff the value holds no mark.** -/
theorem literal_onePass (value : List Char) : OnePass value := by
  have hsettled := literal_eq_translated_settled
  constructor
  case replacements => exact literal_eq_replacements value
  case translation => rw [hsettled, translated_inj, settled_eq_self_iff]
  case marks => exact hsettled value
  case unchanged => exact settled_eq_self_iff
  case append =>
    intro other
    rw [hsettled, hsettled, hsettled, ← translated_append, translated_inj, settled_append_iff]
  case injective =>
    intro other
    rw [hsettled, hsettled, translated_inj]
  case dollars =>
    intro before after
    rw [hsettled, dollar_iff_standsAt]

/-- A mark that the value holds is taken for the character that it stands for. -/
theorem literal_of_mark :
    literal ['\x00', 'R'] = "$<ANGLE-R>".toList ∧
    translated ['\x00', 'R'] = ['\x00', 'R'] ∧
    literal ['\x00', 'R'] ≠ translated ['\x00', 'R'] ∧
    literal ['\x00', 'R'] = literal ['>'] ∧
    literal (['\x00'] ++ ['R']) ≠ literal ['\x00'] ++ literal ['R'] := by
  decide

end CMakeGen.Script
