import CMakeGen.Proofs.Script.Layout

/-!
# Reading undoes writing

**Every script is read back as the statements it was written from** (`read_render`), as long as
each of them is `Readable`: names of build types are names, and values without quotes hold no
character that the reader cannot be told about. Nothing is asked of what stands between quotes.

The proof has a law for each of the two levels, and both are stated for a statement with more
behind it, so a script needs no more than an induction. `Reading.run_statement` is about
characters: one statement takes the reader from between two commands to between two commands, with
the statement's commands behind it. `ofCommands?_commands` is about commands: they are put
together to that statement and no other.
-/

namespace CMakeGen

open Script

/-- What a statement may hold if it is to be read back. -/
def Statement.Readable : Statement → Prop
  | .append _ _ configuration values =>
    Store.isConfigurationName configuration = true ∧ values ≠ [] ∧
      ∀ value ∈ values, '\x00' ∉ value.toList ∧ '\r' ∉ value.toList
  | .standard _ configuration _ => Store.isConfigurationName configuration = true
  | .precompile _ configuration header =>
    Store.isConfigurationName configuration = true ∧ header ≠ "" ∧ '\r' ∉ header.toList
  | _ => True

/-! ## Characters -/

namespace Script.Reading

/-- The name of a command and its first argument. -/
theorem run_openCommand {command : String} (h : IsCommandName command) (target : String)
    (done : List Command) (rest : List Char) :
    run ⟨done, .outside⟩ (openCommand command target ++ rest)
      = run ⟨done, .between ⟨command.toList, [.quoted target]⟩⟩ rest := by
  rw [openCommand, List.append_assoc, List.cons_append, run_name h, run_quoted,
    String.ofList_toList]
  rfl

/-- The line that opens a command: its name, its first argument, and what else there is. -/
theorem run_openLine {command : String} (h : IsCommandName command) {text : List Char}
    {arguments : List Argument} (ht : Reads text arguments) (target : String) (depth : Nat)
    (done : List Command) (rest : List Char) :
    run ⟨done, .outside⟩ ((⟨depth, openCommand command target ++ text⟩ : Line).toChars ++ rest)
      = run ⟨done, .between ⟨command.toList, .quoted target :: arguments⟩⟩ rest := by
  rw [Line.toChars, List.append_assoc, List.append_assoc, run_indent_outside, List.append_assoc,
    run_openCommand h, List.singleton_append, ht _ _ '\n' rest (Or.inl rfl),
    run_blank (by decide)]
  rfl

/-- A command of several lines, with its first arguments on the first of them. -/
theorem run_command {α : Type} {command : String} (h : IsCommandName command)
    {text : List Char} {arguments : List Argument} (ht : Reads text arguments)
    {line : α → List Char} {lineArguments : α → List Argument} {items : List α}
    (hl : ∀ x ∈ items, Reads (line x) (lineArguments x)) (target : String) (depth : Nat)
    (done : List Command) (rest : List Char) :
    run ⟨done, .outside⟩
        ((⟨depth, openCommand command target ++ text⟩
            :: items.map (fun x => (⟨depth + 1, line x⟩ : Line))
            ++ ([⟨depth, closeCommand⟩] : List Line)).flatMap Line.toChars ++ rest)
      = run ⟨done ++ [⟨command, .quoted target :: arguments ++ items.flatMap lineArguments⟩],
          .outside⟩ rest := by
  rw [List.cons_append, List.flatMap_cons, List.flatMap_append, List.append_assoc,
    List.append_assoc, run_openLine h ht, run_lines hl]
  show run _ ((⟨depth, closeCommand⟩ : Line).toChars ++ [] ++ rest) = _
  rw [List.append_nil, run_closeLine, Partial.command, Partial.add, String.ofList_toList]

theorem reads_space_of_reads {text : List Char} {arguments : List Argument}
    (h : Reads text arguments) : Reads (' ' :: text) arguments :=
  reads_nil.space h

theorem openBlock_eq (configuration : String) :
    openBlock configuration = "if".toList ++ '(' :: (("CMAKE_BUILD_TYPE".toList
      ++ ' ' :: ("STREQUAL".toList ++ ' ' :: configuration.toList)) ++ [')']) := by
  unfold openBlock
  rfl

theorem closeBlock_eq : closeBlock = "endif".toList ++ ['(', ')'] := rfl

/-- The line that opens a block. -/
theorem run_openBlock {configuration : String}
    (h : Store.isConfigurationName configuration = true) (done : List Command)
    (rest : List Char) :
    run ⟨done, .outside⟩ ((⟨0, openBlock configuration⟩ : Line).toChars ++ rest)
      = run ⟨done ++ [⟨"if", [.bare "CMAKE_BUILD_TYPE", .bare "STREQUAL", .bare configuration]⟩],
          .outside⟩ rest := by
  have hvariable : Reads "CMAKE_BUILD_TYPE".toList [.bare "CMAKE_BUILD_TYPE"] :=
    IsKeyword.reads (by decide)
  have hoperator : Reads "STREQUAL".toList [.bare "STREQUAL"] := IsKeyword.reads (by decide)
  have hcondition := hvariable.space (hoperator.space (isKeyword_of_isConfigurationName h).reads)
  rw [Line.toChars, openBlock_eq, List.replicate_zero, List.nil_append, List.append_assoc,
    List.append_assoc, List.cons_append, run_name (by decide), List.append_assoc,
    List.singleton_append, hcondition _ _ _ _ (Or.inr rfl)]
  exact (run_cons_of_step rfl _).trans (run_blank_outside (by decide) _ rest)

/-- The line that closes a block. -/
theorem run_closeBlock (done : List Command) (rest : List Char) :
    run ⟨done, .outside⟩ ((⟨0, closeBlock⟩ : Line).toChars ++ rest)
      = run ⟨done ++ [⟨"endif", []⟩], .outside⟩ rest := by
  rw [Line.toChars, closeBlock_eq, List.replicate_zero, List.nil_append, List.append_assoc,
    List.append_assoc, List.cons_append, run_name (by decide)]
  exact (run_cons_of_step rfl _).trans (run_blank_outside (by decide) _ rest)

/-- Lines that stand in a block. -/
theorem run_block {configuration : String} (h : Store.isConfigurationName configuration = true)
    {lines : List Line} {body : Command}
    (hbody : ∀ done rest, run ⟨done, .outside⟩ (lines.flatMap Line.toChars ++ rest)
      = run ⟨done ++ [body], .outside⟩ rest) (done : List Command) (rest : List Char) :
    run ⟨done, .outside⟩ ((⟨0, openBlock configuration⟩ :: lines
        ++ ([⟨0, closeBlock⟩] : List Line)).flatMap Line.toChars ++ rest)
      = run ⟨done ++ block configuration body, .outside⟩ rest := by
  rw [List.cons_append, List.flatMap_cons, List.flatMap_append, List.append_assoc,
    List.append_assoc, run_openBlock h, hbody]
  show run _ ((⟨0, closeBlock⟩ : Line).toChars ++ [] ++ rest) = _
  rw [List.append_nil, run_closeBlock]
  simp [block]

theorem isCommandName_command (setting : ListSetting) : IsCommandName setting.command := by
  cases setting <;> decide

theorem reads_quoted_string (value : String) : Reads (quoted value.toList) [.quoted value] := by
  have h := reads_quoted value.toList
  rwa [String.ofList_toList] at h

/-- The four lines of a standard are lines of one list. -/
theorem standard_lines (value : Standard) :
    ([⟨2, "CXX_STANDARD ".toList ++ value.level.repr.toList⟩,
      ⟨2, "CXX_STANDARD_REQUIRED ".toList ++ (yesNo value.required).toList⟩,
      ⟨2, "CXX_EXTENSIONS ".toList ++ (yesNo value.extensions).toList⟩,
      ⟨2, "POSITION_INDEPENDENT_CODE ".toList ++ (trueFalse value.pic).toList⟩] : List Line)
      = (standardEntries value).map fun entry => ⟨2, entry.1.toList ++ ' ' :: entry.2.toList⟩ := by
  simp [standardEntries]

theorem isKeyword_standardEntries {value : Standard} {entry : String × String}
    (h : entry ∈ standardEntries value) : IsKeyword entry.1 ∧ IsKeyword entry.2 := by
  simp only [standardEntries, List.mem_cons, List.not_mem_nil, or_false] at h
  rcases h with rfl | rfl | rfl | rfl
  · exact ⟨show IsKeyword "CXX_STANDARD" by decide, isKeyword_repr _⟩
  · exact ⟨show IsKeyword "CXX_STANDARD_REQUIRED" by decide, isKeyword_yesNo _⟩
  · exact ⟨show IsKeyword "CXX_EXTENSIONS" by decide, isKeyword_yesNo _⟩
  · exact ⟨show IsKeyword "POSITION_INDEPENDENT_CODE" by decide, isKeyword_trueFalse _⟩

/-- The command of a precompiled header, which is a single line. -/
theorem run_precompileLine {text : List Char} {arguments : List Argument}
    (h : Reads text arguments) (target : String) (done : List Command) (rest : List Char) :
    run ⟨done, .outside⟩ (([⟨1, openCommand "target_precompile_headers" target
        ++ " PUBLIC ".toList ++ text ++ [')']⟩] : List Line).flatMap Line.toChars ++ rest)
      = run ⟨done ++ [⟨"target_precompile_headers", .quoted target :: .bare "PUBLIC"
          :: arguments⟩], .outside⟩ rest := by
  have hpublic : Reads "PUBLIC".toList [.bare "PUBLIC"] := IsKeyword.reads (by decide)
  have harguments := reads_space_of_reads (hpublic.space h)
  have hspelt : " PUBLIC ".toList ++ text = ' ' :: ("PUBLIC".toList ++ ' ' :: text) := rfl
  rw [List.flatMap_cons, List.flatMap_nil, List.append_nil, Line.toChars, List.append_assoc,
    List.append_assoc, run_indent_outside, List.append_assoc (openCommand _ _), hspelt,
    List.append_assoc, List.append_assoc, run_openCommand (by decide), List.singleton_append, List.singleton_append,
    harguments _ _ _ _ (Or.inr rfl)]
  exact (run_cons_of_step rfl _).trans (run_blank_outside (by decide) _ rest)

/-- A precompiled header is given in a block, whatever its path is read as. -/
theorem run_precompile {configuration : String}
    (hname : Store.isConfigurationName configuration = true) {header : String}
    {arguments : List Argument} (h : Reads (unquoted header.toList) arguments) (target : String)
    (done : List Command) (rest : List Char) :
    run ⟨done, .outside⟩ ((Statement.precompile target configuration header).toChars ++ rest)
      = run ⟨done ++ block configuration ⟨"target_precompile_headers",
          .quoted target :: .bare "PUBLIC" :: arguments⟩, .outside⟩ rest :=
  run_block hname (run_precompileLine h target) done rest

theorem run_declare (kind : Kind) (target : String) (files : List String) (done : List Command)
    (rest : List Char) :
    run ⟨done, .outside⟩ ((Statement.declare kind target files).toChars ++ rest)
      = run ⟨done ++ (Statement.declare kind target files).commands, .outside⟩ rest := by
  have hfiles : ∀ file ∈ files, Reads (quoted file.toList) [.quoted file] :=
    fun file _ => reads_quoted_string file
  have hnothing : Reads "".toList [] := reads_nil
  have hword : Reads "SHARED".toList [.bare "SHARED"] := IsKeyword.reads (by decide)
  have hshared : Reads " SHARED".toList [.bare "SHARED"] := reads_space_of_reads hword
  cases kind with
  | staticLibrary =>
    show _ = run ⟨done ++ [⟨"add_library", .quoted target :: files.map .quoted⟩], _⟩ _
    rw [List.map_eq_flatMap]
    exact run_command (by decide) hnothing hfiles target 0 done rest
  | sharedLibrary =>
    show _ = run ⟨done ++ [⟨"add_library", .quoted target :: .bare "SHARED"
      :: files.map .quoted⟩], _⟩ _
    rw [List.map_eq_flatMap]
    exact run_command (by decide) hshared hfiles target 0 done rest
  | executable =>
    show _ = run ⟨done ++ [⟨"add_executable", .quoted target :: files.map .quoted⟩], _⟩ _
    rw [List.map_eq_flatMap]
    exact run_command (by decide) hnothing hfiles target 0 done rest

theorem run_standard {configuration : String}
    (h : Store.isConfigurationName configuration = true) (target : String) (value : Standard)
    (done : List Command) (rest : List Char) :
    run ⟨done, .outside⟩ ((Statement.standard target configuration value).toChars ++ rest)
      = run ⟨done ++ (Statement.standard target configuration value).commands, .outside⟩ rest := by
  have hword : Reads "PROPERTIES".toList [.bare "PROPERTIES"] := IsKeyword.reads (by decide)
  have hproperties : Reads " PROPERTIES".toList [.bare "PROPERTIES"] := reads_space_of_reads hword
  have hlines : (Statement.standard target configuration value).lines
      = ⟨0, openBlock configuration⟩
        :: (⟨1, openCommand "set_target_properties" target ++ " PROPERTIES".toList⟩
          :: (standardEntries value).map (fun entry =>
            (⟨2, entry.1.toList ++ ' ' :: entry.2.toList⟩ : Line))
          ++ ([⟨1, closeCommand⟩] : List Line))
        ++ ([⟨0, closeBlock⟩] : List Line) := by
    rw [← standard_lines]
    rfl
  rw [Statement.toChars, hlines]
  refine run_block h (fun done rest => ?_) done rest
  refine run_command (by decide) hproperties
    (fun entry hentry => ?_) target 1 done rest
  obtain ⟨hname, hvalue⟩ := isKeyword_standardEntries hentry
  exact hname.reads.space hvalue.reads

/-- **A statement is read as its commands**, whatever stands before and behind it. -/
theorem run_statement {s : Statement} (h : s.Readable) (done : List Command)
    (rest : List Char) :
    run ⟨done, .outside⟩ (s.toChars ++ rest) = run ⟨done ++ s.commands, .outside⟩ rest := by
  cases s with
  | declare kind target files => exact run_declare kind target files done rest
  | depend target others =>
    have hothers : ∀ other ∈ others, Reads (quoted other.toList) [.quoted other] :=
      fun other _ => reads_quoted_string other
    have hname : IsCommandName "add_dependencies" := by decide
    have hcommand := run_command hname reads_nil hothers target 0 done rest
    rw [List.append_nil] at hcommand
    show _ = run ⟨done ++ [⟨"add_dependencies", .quoted target :: others.map .quoted⟩], _⟩ _
    rw [List.map_eq_flatMap]
    exact hcommand
  | outputDirectory target directory =>
    have hword : Reads "PROPERTIES".toList [.bare "PROPERTIES"] := IsKeyword.reads (by decide)
    have hkeyword : ∀ property ∈ outputDirectoryProperties, IsKeyword property := by decide
    have hline : ∀ property ∈ outputDirectoryProperties,
        Reads (property.toList ++ ' ' :: quoted directory.toList)
          [.bare property, .quoted directory] :=
      fun property hp => (hkeyword property hp).reads.space (reads_quoted_string directory)
    have hproperties : Reads " PROPERTIES".toList [.bare "PROPERTIES"] :=
      reads_space_of_reads hword
    exact run_command (by decide) hproperties hline
      target 0 done rest
  | append setting target configuration values =>
    obtain ⟨hname, -, hvalues⟩ := h
    have hword : Reads "PUBLIC".toList [.bare "PUBLIC"] := IsKeyword.reads (by decide)
    show _ = run ⟨done ++ [⟨setting.command, .quoted target :: .bare "PUBLIC"
      :: values.map (.guarded configuration)⟩], _⟩ _
    rw [List.map_eq_flatMap]
    exact run_command (isCommandName_command setting) (reads_space_of_reads hword)
      (fun value hv => reads_guarded hname (hvalues value hv).1 (hvalues value hv).2)
      target 0 done rest
  | standard target configuration value => exact run_standard h target value done rest
  | precompile target configuration header =>
    obtain ⟨hname, hne, hr⟩ := h
    exact run_precompile hname (reads_unquoted hne hr) target done rest

theorem run_render {statements : List Statement} (h : ∀ s ∈ statements, s.Readable)
    (done : List Command) :
    run ⟨done, .outside⟩ (statements.flatMap Statement.toChars)
      = some ⟨done ++ statements.flatMap Statement.commands, .outside⟩ := by
  induction statements generalizing done with
  | nil => rw [List.flatMap_nil, List.flatMap_nil, List.append_nil]; rfl
  | cons s statements ih =>
    rw [List.flatMap_cons, run_statement (h s List.mem_cons_self),
      ih fun t ht => h t (List.mem_cons_of_mem s ht), List.append_assoc, List.flatMap_cons]

end Script.Reading

/-- The commands of a script are those of its statements. -/
theorem Script.commands?_render {statements : List Statement} (h : ∀ s ∈ statements, s.Readable) :
    commands? (render statements).toList = some (statements.flatMap Statement.commands) := by
  rw [render, String.toList_ofList, commands?, Reading.start, Reading.run_render h, List.nil_append]

/-! ## Commands -/

namespace Script

theorem quotedTexts?_map (texts : List String) : quotedTexts? (texts.map .quoted) = some texts := by
  induction texts with
  | nil => rfl
  | cons text texts ih =>
    rw [quotedTexts?] at ih ⊢
    rw [List.map_cons, List.mapM_cons, ih]
    rfl

theorem guardedTexts?_map (configuration : String) {values : List String} (h : values ≠ []) :
    guardedTexts? (values.map (.guarded configuration)) = some (configuration, values) := by
  induction values with
  | nil => exact absurd rfl h
  | cons value values ih =>
    cases values with
    | nil => rfl
    | cons next values =>
      have hrest := ih (List.cons_ne_nil next values)
      rw [List.map_cons] at hrest ⊢
      rw [List.map_cons]
      unfold guardedTexts?
      rw [hrest]
      exact if_pos rfl

theorem number?_repr (n : Nat) : number? n.repr = some n := by
  have hdigits : n.repr.toList.all Char.isDigit = true := by
    rw [Nat.toList_repr, List.all_eq_true]
    exact fun c hc => Nat.isDigit_of_mem_toDigits (by decide) (by decide) hc
  rw [number?, if_pos ⟨(isKeyword_repr n).1, hdigits⟩, Nat.toList_repr,
    Nat.ofDigitChars_ten_toDigits]

theorem answer?_yesNo (b : Bool) : answer? "YES" "NO" (yesNo b) = some b := by
  cases b <;> rfl

theorem answer?_trueFalse (b : Bool) : answer? "True" "False" (trueFalse b) = some b := by
  cases b <;> rfl

end Script

theorem Standard.ofArguments?_bareEntries (value : Standard) :
    ofArguments? (bareEntries (standardEntries value)) = some value := by
  show (do
    return {
      level := ← number? value.level.repr
      required := ← answer? "YES" "NO" (yesNo value.required)
      extensions := ← answer? "YES" "NO" (yesNo value.extensions)
      pic := ← answer? "True" "False" (trueFalse value.pic) } : Option Standard) = _
  rw [number?_repr, answer?_yesNo, answer?_yesNo, answer?_trueFalse]
  rfl

namespace Statement

theorem ofCommands?_block {configuration : String} {body : Command} {statement : Statement}
    (h : ofBody? configuration body = some statement) (rest : List Command) :
    ofCommands? (block configuration body ++ rest)
      = (ofCommands? rest).map (statement :: ·) := by
  show (do
    let statement ← ofBody? configuration body
    return statement :: (← ofCommands? rest) : Option (List Statement)) = _
  rw [h]
  cases ofCommands? rest <;> rfl

theorem ofCommands?_cons {command : Command} {statement : Statement} (hif : command.name ≠ "if")
    (h : ofCommand? command = some statement) (rest : List Command) :
    ofCommands? (command :: rest) = (ofCommands? rest).map (statement :: ·) := by
  conv_lhs => unfold ofCommands?
  rw [if_neg hif, h]
  cases ofCommands? rest <;> rfl

theorem ne_if_command (setting : ListSetting) : setting.command ≠ "if" := by
  cases setting <;> decide

/-- **The commands of a statement are put together to it again**, whatever stands behind them. -/
theorem ofCommands?_commands {s : Statement} (h : s.Readable) (rest : List Command) :
    ofCommands? (s.commands ++ rest) = (ofCommands? rest).map (s :: ·) := by
  cases s with
  | declare kind target files =>
    cases kind with
    | staticLibrary =>
      refine ofCommands?_cons (show "add_library" ≠ "if" by decide) ?_ rest
      have hfiles := congrArg (Option.map (declare .staticLibrary target)) (quotedTexts?_map files)
      -- No quoted file is taken for the word that makes a library shared.
      cases files with
      | nil => rfl
      | cons file files => exact hfiles
    | sharedLibrary =>
      refine ofCommands?_cons (show "add_library" ≠ "if" by decide) ?_ rest
      exact congrArg (Option.map (declare .sharedLibrary target)) (quotedTexts?_map files)
    | executable =>
      refine ofCommands?_cons (show "add_executable" ≠ "if" by decide) ?_ rest
      exact congrArg (Option.map (declare .executable target)) (quotedTexts?_map files)
  | depend target others =>
    refine ofCommands?_cons (show "add_dependencies" ≠ "if" by decide) ?_ rest
    exact congrArg (Option.map (depend target)) (quotedTexts?_map others)
  | outputDirectory target directory =>
    refine ofCommands?_cons (show "set_target_properties" ≠ "if" by decide) ?_ rest
    show (if directory = directory ∧ directory = directory then _ else none) = _
    exact if_pos ⟨rfl, rfl⟩
  | append setting target configuration values =>
    obtain ⟨-, hne, -⟩ := h
    have hvalues := guardedTexts?_map configuration hne
    refine ofCommands?_cons (ne_if_command setting) ?_ rest
    have hcommand : ofCommand? ⟨setting.command, .quoted target :: .bare "PUBLIC"
        :: values.map (.guarded configuration)⟩
        = (guardedTexts? (values.map (.guarded configuration))).bind fun entry =>
          (ListSetting.ofCommand? setting.command).bind fun setting =>
            some (append setting target entry.1 entry.2) := by
      cases setting <;> rfl
    show ofCommand? ⟨setting.command, _⟩ = _
    rw [hcommand, hvalues, Option.bind_some, ListSetting.ofCommand?_command]
    rfl
  | standard target configuration value =>
    have hbody : ofBody? configuration (setProperties target (bareEntries (standardEntries value)))
        = some (standard target configuration value) :=
      congrArg (Option.map (standard target configuration)) (Standard.ofArguments?_bareEntries value)
    exact ofCommands?_block hbody rest
  | precompile target configuration header =>
    have hbody : ofBody? configuration
        ⟨"target_precompile_headers", [.quoted target, .bare "PUBLIC", .bare header]⟩
          = some (precompile target configuration header) := rfl
    exact ofCommands?_block hbody rest

theorem ofCommands?_flatMap {statements : List Statement} (h : ∀ s ∈ statements, s.Readable) :
    ofCommands? (statements.flatMap commands) = some statements := by
  induction statements with
  | nil => rfl
  | cons s statements ih =>
    rw [List.flatMap_cons, ofCommands?_commands (h s List.mem_cons_self),
      ih fun t ht => h t (List.mem_cons_of_mem s ht), Option.map_some]

end Statement

/-- **A script reads as the statements it was written from.** -/
theorem Script.read_render {statements : List Statement} (h : ∀ s ∈ statements, s.Readable) :
    read (render statements) = some statements := by
  rw [read, commands?_render h, Option.bind_some, Statement.ofCommands?_flatMap h]

end CMakeGen
