import CMakeGen.Proofs.Script.Replacement
import CMakeGen.Proofs.Script.RoundTrip
import CMakeGen.Text.Split

/-!
# One value, one bare argument

A value that is written as a bare argument should be one argument, however many blanks, brackets and
semicolons it holds. `argumentsFrom` reads bare arguments by the rules of the language: blanks stand
between arguments, a semicolon between the items of one, brackets, quotes and `#` are read by somebody
else, and a backslash takes the next character with it.

**What is read are the pieces of the value between its carriage returns** (`argumentsFrom_unquoted`):
a carriage return is a blank like the others, and the only one that is not escaped. So the value is one
argument iff it is not empty and holds none (`unquoted_isOneArgument_iff`), and the header of a target
is then the one that is named.
-/

namespace CMakeGen.Script

/-! ## Reading bare arguments -/

/-- The characters that end a bare argument and do not belong to the row of them any more. -/
def endsRow (c : Char) : Bool := c = '(' || c = ')' || c = '"' || c = '#'

/-- An argument whose end has not been seen: the items that a semicolon has ended, and the text
behind the last one. -/
structure Items where
  ended : List (List Char) := []
  text : List Char := []

namespace Items

def feed (items : Option Items) (c : Char) : Items :=
  let items := items.getD {}
  { items with text := items.text ++ [c] }

def next (items : Option Items) : Items :=
  let items := items.getD {}
  { ended := items.ended ++ [items.text] }

/-- The argument, as the list of its items. -/
def all (items : Items) : List (List Char) := items.ended ++ [items.text]

end Items

/-- The bare arguments that a text starts with, each as the list of its items, and what is left of
the text where they end. An argument may have begun before. -/
def argumentsFrom (open? : Option Items) : List Char → List (List (List Char)) × List Char
  | [] => ((open?.map Items.all).toList, [])
  | '\\' :: c :: rest => argumentsFrom (some (Items.feed open? (pairMeaning c))) rest
  | c :: rest =>
    if isBlank c then
      let (arguments, left) := argumentsFrom none rest
      ((open?.map Items.all).toList ++ arguments, left)
    else if endsRow c then ((open?.map Items.all).toList, c :: rest)
    else if c = ';' then argumentsFrom (some (Items.next open?)) rest
    else argumentsFrom (some (Items.feed open? c)) rest

theorem argumentsFrom_pair {c d : Char} (h : pairMeaning d = c) (open? : Option Items)
    (rest : List Char) :
    argumentsFrom open? ('\\' :: d :: rest) = argumentsFrom (some (Items.feed open? c)) rest := by
  rw [argumentsFrom, h]

theorem argumentsFrom_blank {c : Char} (h : isBlank c = true) (open? : Option Items)
    (rest : List Char) :
    argumentsFrom open? (c :: rest)
      = ((open?.map Items.all).toList ++ (argumentsFrom none rest).1,
          (argumentsFrom none rest).2) := by
  have hb : c ≠ '\\' := by
    rintro rfl
    exact absurd h (by decide)
  rw [argumentsFrom, if_pos h]
  exact fun d tail hc => absurd hc hb

theorem argumentsFrom_char {c : Char} (hb : c ≠ '\\') (he : endsWord c = false)
    (open? : Option Items) (rest : List Char) :
    argumentsFrom open? (c :: rest) = argumentsFrom (some (Items.feed open? c)) rest := by
  simp only [endsWord, Bool.or_eq_false_iff, decide_eq_false_iff_not] at he
  obtain ⟨⟨⟨⟨⟨hblank, hopen⟩, hclose⟩, hquote⟩, hhash⟩, hitem⟩ := he
  rw [argumentsFrom, if_neg (by simp [hblank]), if_neg (by simp [endsRow, *]), if_neg hitem]
  exact fun d tail hc => absurd hc hb

/-! ## What is escaped belongs to the argument -/

theorem not_endsWord_of_not_isReserved {c : Char} (hr : isReserved c = false) (ht : c ≠ '\t')
    (hn : c ≠ '\n') (hreturn : c ≠ '\r') : endsWord c = false := by
  simp only [isReserved, Bool.or_eq_false_iff, decide_eq_false_iff_not] at hr
  simp [endsWord, isBlank, ht, hn, hreturn, hr]

theorem argumentsFrom_escapeChar {c : Char} (h : c ≠ '\r') (open? : Option Items)
    (rest : List Char) :
    argumentsFrom open? (escapeChar c ++ rest) = argumentsFrom (some (Items.feed open? c)) rest := by
  rcases escapeChar_cases c with ⟨rfl, he⟩ | ⟨rfl, he⟩ | ⟨hr, he⟩ | ⟨ht, hn, hr, he⟩
  · rw [he]; exact argumentsFrom_pair rfl open? rest
  · rw [he]; exact argumentsFrom_pair rfl open? rest
  · rw [he]; exact argumentsFrom_pair (pairMeaning_of_isReserved hr) open? rest
  · rw [he]
    exact argumentsFrom_char (ne_backslash_of_not_isReserved hr)
      (not_endsWord_of_not_isReserved hr ht hn h) open? rest

theorem argumentsFrom_piece {piece : List Char} (h : '\r' ∉ piece) (items : Items)
    (rest : List Char) :
    argumentsFrom (some items) (unquoted piece ++ rest)
      = argumentsFrom (some { items with text := items.text ++ piece }) rest := by
  induction piece generalizing items with
  | nil => rw [List.append_nil]; rfl
  | cons c piece ih =>
    rw [List.mem_cons, not_or] at h
    obtain ⟨hc, hpiece⟩ := h
    rw [unquoted, List.flatMap_cons, List.append_assoc, argumentsFrom_escapeChar (Ne.symm hc)]
    refine (ih hpiece _).trans ?_
    simp [Items.feed]

/-- The argument that a piece of a value makes, unless it is empty. -/
def opened (piece : List Char) : Option Items :=
  if piece = [] then none else some { text := piece }

theorem argumentsFrom_opened {piece : List Char} (h : '\r' ∉ piece) (rest : List Char) :
    argumentsFrom none (unquoted piece ++ rest) = argumentsFrom (opened piece) rest := by
  cases piece with
  | nil => rfl
  | cons c piece =>
    rw [List.mem_cons, not_or] at h
    obtain ⟨hc, hpiece⟩ := h
    rw [unquoted, List.flatMap_cons, List.append_assoc, argumentsFrom_escapeChar (Ne.symm hc)]
    exact argumentsFrom_piece hpiece _ rest

/-! ## Carriage returns -/

/-- The pieces of a value between its carriage returns, the empty ones left out. -/
def pieces (value : List Char) : List (List Char) :=
  (Text.splitOn '\r' value).filter (· ≠ [])

/-- A value is its only piece iff it is not empty and nothing cuts it. -/
theorem pieces_eq_singleton_iff {value : List Char} :
    pieces value = [value] ↔ value ≠ [] ∧ '\r' ∉ value := by
  constructor
  · intro h
    have hmem : value ∈ pieces value := by rw [h]; exact List.mem_cons_self
    obtain ⟨hsplit, hne⟩ := List.mem_filter.mp hmem
    exact ⟨of_decide_eq_true hne, Text.not_mem_of_mem_splitOn hsplit⟩
  · rintro ⟨hne, hreturn⟩
    rw [pieces, Text.splitOn_eq_self hreturn]
    simp [hne]

theorem unquoted_joinWith (parts : List (List Char)) :
    unquoted (Text.joinWith '\r' parts) = Text.joinWith '\r' (parts.map unquoted) := by
  induction parts with
  | nil => rfl
  | cons part parts ih =>
    cases parts with
    | nil => rfl
    | cons next parts =>
      rw [Text.joinWith, unquoted, List.flatMap_append, List.flatMap_cons, ← unquoted, ← unquoted,
        ih]
      rfl

/-- A value, as a text that is cut where its carriage returns are. -/
theorem unquoted_eq_joinWith (value : List Char) :
    unquoted value = Text.joinWith '\r' ((Text.splitOn '\r' value).map unquoted) := by
  rw [← unquoted_joinWith, Text.joinWith_splitOn]

theorem argumentsFrom_joinWith {parts : List (List Char)} (h : ∀ part ∈ parts, '\r' ∉ part) :
    argumentsFrom none (Text.joinWith '\r' (parts.map unquoted))
      = ((parts.filter (· ≠ [])).map ([·]), []) := by
  induction parts with
  | nil => rfl
  | cons part parts ih =>
    have hpart := argumentsFrom_opened (h part List.mem_cons_self)
    have hall (rest : List (List Char)) :
        ((opened part).map Items.all).toList ++ (rest.filter (· ≠ [])).map ([·])
          = ((part :: rest).filter (· ≠ [])).map ([·]) := by
      by_cases hempty : part = []
      · simp [opened, hempty]
      · simp [opened, hempty, Items.all]
    cases parts with
    | nil =>
      have hlast := hpart []
      rw [List.append_nil] at hlast
      rw [← hall [], List.filter_nil, List.map_nil, List.append_nil]
      exact hlast
    | cons next parts =>
      have hrest := ih fun part hp => h part (List.mem_cons_of_mem _ hp)
      rw [List.map_cons, List.map_cons, Text.joinWith, hpart, argumentsFrom_blank (by decide),
        ← List.map_cons, hrest, hall]

/-- **What is read are the pieces of the value**, each as an argument of one item. -/
theorem argumentsFrom_unquoted (value : List Char) :
    argumentsFrom none (unquoted value) = ((pieces value).map ([·]), []) := by
  rw [unquoted_eq_joinWith]
  exact argumentsFrom_joinWith fun _ hpart => Text.not_mem_of_mem_splitOn hpart

/-! ## The header of a target -/

theorem reads_joinWith {parts : List (List Char)} (h : ∀ part ∈ parts, '\r' ∉ part) :
    Reads (Text.joinWith '\r' (parts.map unquoted))
      ((parts.filter (· ≠ [])).map fun part => .bare (String.ofList part)) := by
  have hpart {part : List Char} (hreturn : '\r' ∉ part) :
      Reads (unquoted part)
        (([part].filter (· ≠ [])).map fun part => .bare (String.ofList part)) := by
    by_cases hempty : part = []
    · subst hempty
      exact reads_nil
    · have hvalue : String.ofList part ≠ "" := fun heq => hempty (String.ofList_eq_empty_iff.mp heq)
      have hreads := reads_unquoted hvalue (by rwa [String.toList_ofList])
      rw [String.toList_ofList] at hreads
      simpa [hempty] using hreads
  induction parts with
  | nil => exact reads_nil
  | cons part parts ih =>
    have hfirst := hpart (h part List.mem_cons_self)
    cases parts with
    | nil => exact hfirst
    | cons next parts =>
      have hrest := ih fun part hp => h part (List.mem_cons_of_mem _ hp)
      have hboth := hfirst.blank hrest (show isBlank '\r' = true by decide)
      rw [← List.map_append, ← List.filter_append, List.singleton_append] at hboth
      exact hboth

theorem reads_unquoted_pieces (value : List Char) :
    Reads (unquoted value) ((pieces value).map fun piece => .bare (String.ofList piece)) := by
  rw [unquoted_eq_joinWith]
  exact reads_joinWith fun _ hpart => Text.not_mem_of_mem_splitOn hpart

/-- The block of a precompiled header names the pieces of its path. -/
theorem commands?_precompile {configuration : String}
    (h : Store.isConfigurationName configuration = true) (target header : String) :
    commands? (Statement.precompile target configuration header).toChars
      = some (block configuration ⟨"target_precompile_headers", .quoted target :: .bare "PUBLIC"
          :: (pieces header.toList).map fun piece => .bare (String.ofList piece)⟩) := by
  have hrun := Reading.run_precompile h (reads_unquoted_pieces header.toList) target [] []
  rw [List.append_nil] at hrun
  rw [commands?, Reading.start, hrun]
  rfl

/-- **A value is one argument and decodes to itself iff it is not empty and holds no carriage return**,
and in the same cases a target has the header that was named. The form of the value is what the rounds
of replacements make of it. -/
theorem unquoted_isOneArgument_iff (value : String) :
    unquoted value.toList = replaceChars escapes value.toList ∧
    (argumentsFrom none (unquoted value.toList) = ([[value.toList]], []) ↔
      value ≠ "" ∧ '\r' ∉ value.toList) ∧
    ∀ target configuration, Store.isConfigurationName configuration = true →
      (commands? (Statement.precompile target configuration value).toChars
          = some (Statement.precompile target configuration value).commands ↔
        value ≠ "" ∧ '\r' ∉ value.toList) := by
  have hpieces : pieces value.toList = [value.toList] ↔ value ≠ "" ∧ '\r' ∉ value.toList := by
    rw [pieces_eq_singleton_iff]
    simp
  refine ⟨unquoted_eq_replaceChars _, ?_, ?_⟩
  · rw [argumentsFrom_unquoted, ← hpieces, Prod.mk.injEq, eq_self, and_true]
    have hitem : Function.Injective fun piece : List Char => [piece] := List.singleton_injective
    have hvalue : [[value.toList]] = [value.toList].map fun piece => [piece] := rfl
    rw [hvalue]
    exact (List.map_injective_iff.mpr hitem).eq_iff
  · intro target configuration hname
    have hbare : Function.Injective fun piece => Argument.bare (String.ofList piece) := by
      intro piece other h
      exact String.ofList_inj.mp (Argument.bare.inj h)
    have hheader : [Argument.bare value]
        = [value.toList].map fun piece => Argument.bare (String.ofList piece) := by
      rw [List.map_singleton, String.ofList_toList]
    rw [commands?_precompile hname, ← hpieces, Statement.commands, hheader]
    simp only [block, Option.some.injEq, List.cons.injEq, Command.mk.injEq, true_and, and_true]
    exact (List.map_injective_iff.mpr hbare).eq_iff

/-- Blanks, brackets and quotes do not take a value apart. -/
theorem unquoted_isOneArgument_iff_sample :
    argumentsFrom none (unquoted "a;\"b\" #(\\t$\t\n".toList)
      = ([["a;\"b\" #(\\t$\t\n".toList]], []) ∧
    commands? (Statement.precompile "core" "Debug" "a;\"b\" #(\\t$\t\n").toChars
      = some (Statement.precompile "core" "Debug" "a;\"b\" #(\\t$\t\n").commands := by
  have hname : Store.isConfigurationName "Debug" = true := by decide
  have hvalue : "a;\"b\" #(\\t$\t\n" ≠ "" ∧ '\r' ∉ "a;\"b\" #(\\t$\t\n".toList := by decide
  obtain ⟨-, harguments, hheader⟩ := unquoted_isOneArgument_iff "a;\"b\" #(\\t$\t\n"
  exact ⟨harguments.mpr hvalue, (hheader "core" "Debug" hname).mpr hvalue⟩

/-- A carriage return makes two arguments of a value. -/
theorem argumentsFrom_unquoted_return :
    "a\rb" ≠ "" ∧
    argumentsFrom none (unquoted "a\rb".toList) = ([["a".toList], ["b".toList]], []) ∧
    argumentsFrom none (unquoted "a\rb".toList) ≠ ([["a\rb".toList]], []) := by
  decide

end CMakeGen.Script
