import CMakeGen.Proofs.Script.Layout
import Mathlib.Data.List.Induction

/-!
# What a guarded value means

A build tool gives a meaning to a bare argument in two stages, and the second one works on what the
first one leaves.

1. `expand` undoes pairs and puts the values of variables in place of references.
2. `evaluate` finds the expressions in the resulting text and puts their values in their place.

**A backslash protects a character from the first stage and from nothing else.** The dollar sign of a
reference is safe behind one, since references are gone when the backslashes go. The dollar sign of
an expression is not: the second stage sees `$<` as it stood in the value, opens an expression there,
and that expression takes the `>` which was to close the guard. So a guarded value means what it
says iff it does not hold `$<` (`meaning?_guarded_literal_iff`), and otherwise means nothing.

What an expression says about a build is known here for the expressions that a guard is made of.
Every other identifier has no value.
-/

namespace CMakeGen.Script

/-! ## The first stage -/

/-- A text with its pairs undone and its references replaced. A reference may stand in the name of
another one, so `outer` holds the texts that are interrupted by a reference, the innermost first. -/
def expand (valueOf : List Char → List Char) (outer : List (List Char)) (text : List Char) :
    List Char → Option (List Char)
  | [] => if outer = [] then some text else none
  | '\\' :: c :: rest => expand valueOf outer (text ++ [pairMeaning c]) rest
  | '$' :: '{' :: rest => expand valueOf (text :: outer) [] rest
  | c :: rest =>
    match outer with
    | [] => expand valueOf [] (text ++ [c]) rest
    | before :: outer =>
      if c = '}' then expand valueOf outer (before ++ valueOf text) rest
      else expand valueOf (before :: outer) (text ++ [c]) rest

/-! ## The second stage -/

/-- An expression whose end has not been seen. -/
structure Expression where
  /-- What stands before the first `:`, once that has been seen. -/
  identifier : Option (List Char) := none
  /-- The parameters that a `,` has ended. -/
  parameters : List (List Char) := []
  text : List Char := []

namespace Expression

def add (e : Expression) (value : List Char) : Expression := { e with text := e.text ++ value }

/-- A character inside an expression that neither opens nor closes one. -/
def feed (e : Expression) (c : Char) : Expression :=
  match e.identifier with
  | none => if c = ':' then { e with identifier := some e.text, text := [] } else e.add [c]
  | some _ =>
    if c = ',' then { e with parameters := e.parameters ++ [e.text], text := [] } else e.add [c]

/-- The value of an expression that ends here. -/
def value? (buildType : List Char) (e : Expression) : Option (List Char) :=
  match e.identifier, e.parameters with
  | none, _ =>
    if e.text = "ANGLE-R".toList then some ['>']
    else if e.text = "COMMA".toList then some [',']
    else none
  | some identifier, [] =>
    if identifier = "CONFIG".toList then some (if e.text = buildType then ['1'] else ['0'])
    else if identifier = ['1'] then some e.text
    else if identifier = ['0'] then some []
    else none
  | some _, _ => none

end Expression

/-- A text with its expressions replaced by their values; `none` if one of them has no value or no
end. The expressions around the innermost one are in `outer`, and the last of them is the text that
is outside of all expressions. -/
def evaluate (buildType : List Char) (outer : List Expression) (e : Expression) :
    List Char → Option (List Char)
  | [] => if outer.isEmpty then some e.text else none
  | '$' :: '<' :: rest => evaluate buildType (e :: outer) {} rest
  | c :: rest =>
    match outer with
    | [] => evaluate buildType [] (e.add [c]) rest
    | around :: outer =>
      if c = '>' then
        match e.value? buildType with
        | none => none
        | some value => evaluate buildType outer (around.add value) rest
      else evaluate buildType (around :: outer) (e.feed c) rest

/-- What a bare argument means under a build type. -/
def meaning? (valueOf : List Char → List Char) (buildType word : List Char) :
    Option (List Char) :=
  (expand valueOf [] [] word).bind (evaluate buildType [] {})

/-! ## Guarded values behind the first stage -/

/-- A character of a value as the second stage sees it. -/
def visibleChar (c : Char) : List Char :=
  if c = '>' then angleExpression else if c = ',' then commaExpression else [c]

def visible (value : List Char) : List Char := value.flatMap visibleChar

section

variable {valueOf : List Char → List Char}

theorem expand_pair {c d : Char} (h : pairMeaning d = c) (outer : List (List Char))
    (text rest : List Char) :
    expand valueOf outer text (['\\', d] ++ rest) = expand valueOf outer (text ++ [c]) rest := by
  rw [List.cons_append, List.cons_append, List.nil_append, expand, h]

theorem expand_cons {c : Char} {rest : List Char} (hb : c ≠ '\\')
    (hd : c = '$' → rest.head? ≠ some '{') (text : List Char) :
    expand valueOf [] text (c :: rest) = expand valueOf [] (text ++ [c]) rest := by
  conv_lhs => unfold expand
  split <;> simp_all

theorem expand_keyword {word : String} (h : IsKeyword word) (text rest : List Char) :
    expand valueOf [] text (word.toList ++ rest)
      = expand valueOf [] (text ++ word.toList) rest := by
  have hall := h.2
  generalize word.toList = chars at hall
  induction chars generalizing text with
  | nil => simp
  | cons c chars ih =>
    obtain ⟨hd, hb, -⟩ := hall c List.mem_cons_self
    rw [List.cons_append, expand_cons hb (fun hc => absurd hc hd),
      ih _ fun d hd => hall d (List.mem_cons_of_mem c hd)]
    simp

/-- The dollar sign of an expression opens no reference. -/
theorem expand_dollar {word : String} (h : IsKeyword word) (hhead : word.toList.head? = some '<')
    (text rest : List Char) :
    expand valueOf [] text ('$' :: word.toList ++ rest)
      = expand valueOf [] (text ++ '$' :: word.toList) rest := by
  have hnext : (word.toList ++ rest).head? ≠ some '{' := by
    rw [List.head?_append, hhead, Option.some_or]
    decide
  rw [List.cons_append, expand_cons (by decide) (fun _ => hnext), expand_keyword h]
  simp

theorem expand_escapeChar (c : Char) (text rest : List Char) :
    expand valueOf [] text (escapeChar c ++ rest) = expand valueOf [] (text ++ [c]) rest := by
  rcases escapeChar_cases c with ⟨rfl, h⟩ | ⟨rfl, h⟩ | ⟨hr, h⟩ | ⟨-, -, hr, h⟩
  · rw [h, expand_pair (show pairMeaning 't' = '\t' by decide)]
  · rw [h, expand_pair (show pairMeaning 'n' = '\n' by decide)]
  · rw [h, expand_pair (pairMeaning_of_isReserved hr)]
  · rw [h]
    have hd : c ≠ '$' := by
      rintro rfl
      exact absurd hr (by decide)
    exact expand_cons (ne_backslash_of_not_isReserved hr) (fun hc => absurd hc hd) text

theorem expand_literalChar (c : Char) (text rest : List Char) :
    expand valueOf [] text (literalChar c ++ rest)
      = expand valueOf [] (text ++ visibleChar c) rest := by
  unfold literalChar visibleChar
  split
  · exact expand_dollar (show IsKeyword "<ANGLE-R>" by decide) rfl text rest
  split
  · exact expand_dollar (show IsKeyword "<COMMA>" by decide) rfl text rest
  exact expand_escapeChar c text rest

theorem expand_translated (value text rest : List Char) :
    expand valueOf [] text (translated value ++ rest)
      = expand valueOf [] (text ++ visible value) rest := by
  induction value generalizing text with
  | nil => simp [visible]
  | cons c value ih =>
    rw [translated_cons, List.append_assoc, expand_literalChar, ih]
    simp [visible]

theorem expand_literal {value : List Char} (h : '\x00' ∉ value) (text rest : List Char) :
    expand valueOf [] text (literal value ++ rest)
      = expand valueOf [] (text ++ visible value) rest := by
  rw [literal_eq_translated h, expand_translated]

theorem expand_guarded_literal {configuration : String} (hc : IsKeyword configuration)
    {value : List Char} (h0 : '\x00' ∉ value) :
    expand valueOf [] [] (guarded configuration.toList (literal value))
      = some (guarded configuration.toList (visible value)) := by
  have hopen (rest : List Char) : expand valueOf [] [] ("$<$<CONFIG:".toList ++ rest)
      = expand valueOf [] "$<$<CONFIG:".toList rest :=
    (expand_dollar (show IsKeyword "<" by decide) rfl [] _).trans
      (expand_dollar (show IsKeyword "<CONFIG:" by decide) rfl ['$', '<'] rest)
  have hend (text : List Char) : expand valueOf [] text ">".toList = some (text ++ ['>']) :=
    expand_cons (by decide) (fun h => absurd h (by decide)) text
  unfold guarded
  simp only [List.append_assoc]
  rw [hopen, expand_keyword hc, expand_keyword (by decide), expand_literal h0, hend]
  simp only [List.append_assoc]
  rfl

end

/-! ## Guarded values in the second stage -/

section

variable {buildType : List Char} {outer : List Expression} {e around : Expression}

@[simp] theorem Expression.add_add (e : Expression) (xs ys : List Char) :
    (e.add xs).add ys = e.add (xs ++ ys) := by
  simp [add]

@[simp] theorem Expression.add_nil (e : Expression) : e.add [] = e := by
  simp [add]

theorem evaluate_open (rest : List Char) :
    evaluate buildType outer e ('$' :: '<' :: rest) = evaluate buildType (e :: outer) {} rest := by
  rw [evaluate]

theorem evaluate_close (rest : List Char) :
    evaluate buildType (around :: outer) e ('>' :: rest)
      = (e.value? buildType).bind fun value =>
        evaluate buildType outer (around.add value) rest := by
  rw [evaluate]
  · cases e.value? buildType with
    | none => rfl
    | some value => rfl
  · simp

theorem evaluate_feed {c : Char} {rest : List Char} (hc : c ≠ '>')
    (hd : c = '$' → rest.head? ≠ some '<') :
    evaluate buildType (around :: outer) e (c :: rest)
      = evaluate buildType (around :: outer) (e.feed c) rest := by
  conv_lhs => unfold evaluate
  split <;> simp_all

/-- A text that neither opens nor closes an expression, and ends no part of one. -/
def IsInert (word : List Char) : Prop := ∀ c ∈ word, c ≠ '$' ∧ c ≠ '>' ∧ c ≠ ':' ∧ c ≠ ','

instance (word : List Char) : Decidable (IsInert word) := List.decidableBAll _ word

theorem Expression.feed_eq_add {c : Char} (hcolon : c ≠ ':' ∨ e.identifier.isSome)
    (hcomma : c ≠ ',') : e.feed c = e.add [c] := by
  unfold feed
  cases hi : e.identifier with
  | none => exact if_neg (hcolon.resolve_right (by simp [hi]))
  | some identifier => exact if_neg hcomma

theorem evaluate_inert {word : List Char} (h : IsInert word) (rest : List Char) :
    evaluate buildType (around :: outer) e (word ++ rest)
      = evaluate buildType (around :: outer) (e.add word) rest := by
  induction word generalizing e with
  | nil => simp
  | cons c word ih =>
    obtain ⟨hdollar, hclose, hcolon, hcomma⟩ := h c List.mem_cons_self
    rw [List.cons_append, evaluate_feed hclose (fun hc => absurd hc hdollar),
      Expression.feed_eq_add (.inl hcolon) hcomma, ih fun d hd => h d (List.mem_cons_of_mem c hd)]
    simp

/-- An expression that is a mere name has its value wherever it stands. -/
theorem evaluate_name {name value : List Char} (h : IsInert name)
    (hvalue : Expression.value? buildType { text := name } = some value) (rest : List Char) :
    evaluate buildType outer e ('$' :: '<' :: name ++ '>' :: rest)
      = evaluate buildType outer (e.add value) rest := by
  rw [List.cons_append, List.cons_append, evaluate_open, evaluate_inert h, evaluate_close]
  show (Expression.value? buildType { text := name }).bind _ = _
  rw [hvalue]
  rfl

/-- What a character of a value does to the expression that it stands in. -/
def Expression.take (e : Expression) (c : Char) : Expression :=
  if c = '>' ∨ c = ',' then e.add [c] else e.feed c

theorem evaluate_visibleChar {c : Char} {rest : List Char} (h : c = '$' → rest.head? ≠ some '<') :
    evaluate buildType (around :: outer) e (visibleChar c ++ rest)
      = evaluate buildType (around :: outer) (e.take c) rest := by
  by_cases hclose : c = '>'
  · subst hclose
    have hchar : visibleChar '>' ++ rest = '$' :: '<' :: "ANGLE-R".toList ++ '>' :: rest := rfl
    have htake : e.take '>' = e.add ['>'] := rfl
    rw [hchar, htake, evaluate_name (by decide) rfl]
  by_cases hcomma : c = ','
  · subst hcomma
    have hchar : visibleChar ',' ++ rest = '$' :: '<' :: "COMMA".toList ++ '>' :: rest := rfl
    have htake : e.take ',' = e.add [','] := rfl
    rw [hchar, htake, evaluate_name (by decide) rfl]
  · have htake : e.take c = e.feed c := if_neg (by simp [hclose, hcomma])
    have hchar : visibleChar c = [c] := by simp [visibleChar, hclose, hcomma]
    rw [htake, hchar]
    exact evaluate_feed hclose h

theorem head?_visible {value : List Char} (h : value.head? ≠ some '<') (rest : List Char) :
    (visible value ++ '>' :: rest).head? ≠ some '<' := by
  cases value with
  | nil => simp [visible]
  | cons c value =>
    have hc : c ≠ '<' := by simpa using h
    show (visibleChar c ++ visible value ++ '>' :: rest).head? ≠ some '<'
    unfold visibleChar
    split
    · show some '$' ≠ some '<'
      decide
    split
    · show some '$' ≠ some '<'
      decide
    · simpa using hc

theorem evaluate_visible_cons {c : Char} {value : List Char}
    (h : c = '$' → value.head? ≠ some '<') (rest : List Char) :
    evaluate buildType (around :: outer) e (visible (c :: value) ++ '>' :: rest)
      = evaluate buildType (around :: outer) (e.take c) (visible value ++ '>' :: rest) := by
  rw [visible, List.flatMap_cons, List.append_assoc]
  exact evaluate_visibleChar fun hc => head?_visible (h hc) rest

/-- A value without `$<` is taken up as it is, once the identifier has ended. -/
theorem evaluate_visible {value : List Char} (h : ¬ ['$', '<'] <:+: value)
    (he : e.identifier.isSome) (rest : List Char) :
    evaluate buildType (around :: outer) e (visible value ++ '>' :: rest)
      = evaluate buildType (around :: outer) (e.add value) ('>' :: rest) := by
  induction value generalizing e with
  | nil => simp [visible]
  | cons c value ih =>
    rw [List.infix_cons_iff, not_or] at h
    obtain ⟨hstart, htail⟩ := h
    have hnext : c = '$' → value.head? ≠ some '<' := by
      rintro rfl hhead
      obtain ⟨rest, rfl⟩ := List.head?_eq_some_iff.mp hhead
      exact hstart ⟨rest, rfl⟩
    have htake : e.take c = e.add [c] := by
      unfold Expression.take
      split
      · rfl
      · next hc => exact Expression.feed_eq_add (.inr he) (by simp_all)
    rw [evaluate_visible_cons hnext, htake, ih htail (show (e.add [c]).identifier.isSome from he)]
    simp

theorem evaluate_close_eq_none (h : outer ≠ []) :
    evaluate buildType (around :: outer) e ['>'] = none := by
  rw [evaluate_close]
  cases e.value? buildType with
  | none => rfl
  | some value => simp [evaluate, h]

/-- **Where a value holds `$<`, an expression has no end**: the value opens one more than it closes,
and there is but one `>` behind it for each of the expressions around it. -/
theorem evaluate_visible_eq_none {value : List Char} (h : outer ≠ [] ∨ ['$', '<'] <:+: value) :
    evaluate buildType (around :: outer) e (visible value ++ ['>']) = none := by
  induction value using List.twoStepInduction generalizing e around outer with
  | nil =>
    exact evaluate_close_eq_none (h.resolve_right (by simp))
  | singleton c =>
    rw [evaluate_visible_cons (by simp)]
    exact evaluate_close_eq_none (h.resolve_right (by simp [List.infix_cons_iff]))
  | cons_cons c d value ih ihd =>
    by_cases hopen : c = '$' ∧ d = '<'
    · obtain ⟨rfl, rfl⟩ := hopen
      show evaluate buildType (around :: outer) e ('$' :: '<' :: (visible value ++ ['>'])) = none
      rw [evaluate_open]
      exact ih (.inl (List.cons_ne_nil _ _))
    · have hnext : c = '$' → (d :: value).head? ≠ some '<' := by
        intro hc hd
        exact hopen ⟨hc, by simpa using hd⟩
      rw [evaluate_visible_cons hnext]
      refine ihd d (h.imp_right fun hinfix => ?_)
      rcases List.infix_cons_iff.mp hinfix with hstart | htail
      · simp only [List.cons_prefix_cons, List.nil_prefix, and_true] at hstart
        exact absurd ⟨hstart.1.symm, hstart.2.symm⟩ hopen
      · exact htail

/-- A guard is an expression whose identifier is the answer of another one. -/
theorem evaluate_guarded {configuration : List Char} (h : IsInert configuration)
    (text : List Char) :
    evaluate buildType [] {} (guarded configuration text)
      = evaluate buildType [{}]
          { identifier := some (if configuration = buildType then ['1'] else ['0']) }
          (text ++ ['>']) := by
  have hsplit : guarded configuration text
      = '$' :: '<' :: '$' :: '<' :: ("CONFIG".toList
        ++ ':' :: (configuration ++ '>' :: ':' :: (text ++ ['>']))) := by
    unfold guarded
    simp only [List.append_assoc]
    rfl
  rw [hsplit, evaluate_open, evaluate_open, evaluate_inert (by decide),
    evaluate_feed (by decide) (fun hc => absurd hc (by decide))]
  show evaluate buildType [{}, {}] { identifier := some "CONFIG".toList } _ = _
  rw [evaluate_inert h, evaluate_close]
  show evaluate buildType [{}] (Expression.add {} _) (':' :: (text ++ ['>'])) = _
  rw [evaluate_feed (by decide) (fun hc => absurd hc (by decide))]
  rfl

end

/-! ## What a guarded value means -/

theorem isInert_of_isConfigurationName {name : String}
    (h : Store.isConfigurationName name = true) : IsInert name.toList := by
  intro c hc
  have hname := (isNameChar_of_isConfigurationName h).2 c hc
  obtain ⟨hdollar, -, hclose, -⟩ := endsWord_of_isNameChar hname
  refine ⟨hdollar, hclose, ?_, ?_⟩
  · rintro rfl
    exact absurd hname (by decide)
  · rintro rfl
    exact absurd hname (by decide)

section

variable {configuration value : String} (hc : Store.isConfigurationName configuration = true)
  (h0 : '\x00' ∉ value.toList) (valueOf : List Char → List Char) (buildType : String)

include hc h0

/-- Both stages come down to evaluating the value behind an answer, inside one more expression. -/
theorem meaning?_guarded :
    meaning? valueOf buildType.toList (guarded configuration.toList (literal value.toList))
      = evaluate buildType.toList [{}]
          { identifier := some (if configuration.toList = buildType.toList then ['1'] else ['0']) }
          (visible value.toList ++ ['>']) := by
  rw [meaning?, expand_guarded_literal (isKeyword_of_isConfigurationName hc) h0, Option.bind_some,
    evaluate_guarded (isInert_of_isConfigurationName hc)]

theorem meaning?_guarded_of_opens (h : "$<".toList <:+: value.toList) :
    meaning? valueOf buildType.toList (guarded configuration.toList (literal value.toList))
      = none := by
  rw [meaning?_guarded hc h0]
  exact evaluate_visible_eq_none (.inr h)

theorem meaning?_guarded_of_closed (h : ¬ "$<".toList <:+: value.toList) :
    meaning? valueOf buildType.toList (guarded configuration.toList (literal value.toList))
      = some (if configuration = buildType then value.toList else []) := by
  rw [meaning?_guarded hc h0, evaluate_visible h rfl, evaluate_close]
  by_cases hb : configuration = buildType
  · subst hb
    simp [Expression.value?, Expression.add, evaluate]
  · have hlist : configuration.toList ≠ buildType.toList := fun h => hb (String.toList_inj.mp h)
    simp [Expression.value?, Expression.add, evaluate, hb, hlist]

end

/-- **A guarded value is one bare argument, and it means what it says iff it does not hold `$<`.** -/
theorem meaning?_guarded_literal_iff {configuration value : String}
    (hc : Store.isConfigurationName configuration = true) (h0 : '\x00' ∉ value.toList)
    (hr : '\r' ∉ value.toList) (valueOf : List Char → List Char) :
    IsWord (guarded configuration.toList (literal value.toList)) ∧
    (meaning? valueOf configuration.toList (guarded configuration.toList (literal value.toList))
        = some value.toList ↔ ¬ "$<".toList <:+: value.toList) := by
  constructor
  · exact isWord_guarded (isKeyword_of_isConfigurationName hc).isWord (isWord_literal h0 hr)
  · constructor
    · intro h hopen
      rw [meaning?_guarded_of_opens hc h0 _ _ hopen] at h
      cases h
    · intro hopen
      rw [meaning?_guarded_of_closed hc h0 _ _ hopen, if_pos rfl]

/-- References, and the characters that end expressions and their parts. -/
theorem meaning?_guarded_literal_iff_sample :
    meaning? (fun _ => "/r".toList) "Debug".toList
        (guarded "Debug".toList (literal "$\x7bROOT\x7d/a>b,$ <c;\\:".toList))
      = some "$\x7bROOT\x7d/a>b,$ <c;\\:".toList := by
  have hname : Store.isConfigurationName "Debug" = true := by decide
  have hclosed : ¬ "$<".toList <:+: "$\x7bROOT\x7d/a>b,$ <c;\\:".toList := by
    simp [List.infix_cons_iff]
  exact (meaning?_guarded_literal_iff hname (by decide) (by decide) _).2.mpr hclosed

/-- An expression in a value takes the end of the guard. -/
theorem meaning?_guarded_expression :
    Store.isConfigurationName "Debug" = true ∧ '\x00' ∉ "$<TARGET_FILE:x>".toList ∧
    '\r' ∉ "$<TARGET_FILE:x>".toList ∧
    meaning? (fun _ => []) "Debug".toList
      (guarded "Debug".toList (literal "$<TARGET_FILE:x>".toList)) = none := by
  refine ⟨by decide, by decide, by decide, ?_⟩
  exact meaning?_guarded_of_opens (by decide) (by decide) _ _ (by decide)

/-- It would not, if its two first characters were kept apart. -/
example : meaning? (fun _ => []) "Debug".toList
    (guarded "Debug".toList "\\$$<1:<>TARGET_FILE:x$<ANGLE-R>".toList)
      = some "$<TARGET_FILE:x>".toList := by
  decide +kernel

end CMakeGen.Script
