import CMakeGen.Proofs.Script.Command
import Mathlib.Data.List.Basic

/-!
# Reading a script

The other side of `Script.render`: a reader that knows the rules of the language and nothing of
how the scripts are written. It works in three stages.

1. `Reading.step` takes one character. Blanks and newlines separate arguments; quotes enclose
   one; a backslash takes the next character with it, in and out of quotes. What a bare argument
   cannot hold (a bracket, a quote, `#`, `;`) is refused rather than guessed at.
2. `Argument.ofWord` undoes the escapes of a bare argument and takes a guard off.
3. `Statement.ofCommands?` puts commands together to statements and refuses what is none.

**The stages only ever undo.** None of them calls a function of `Script/Escape.lean` or
`Script/Statement.lean` that writes, so a slip in the writer cannot cancel against the same slip
here. A bare argument stays as it is spelt until it ends: whether a dollar sign was escaped
decides what it means, and after unescaping that could not be told.
-/

namespace CMakeGen.Script

/-! ## Characters -/

def isBlank (c : Char) : Bool := c = ' ' || c = '\t' || c = '\n' || c = '\r'

/-- The characters of the name of a command. -/
def isCommandChar (c : Char) : Bool := c.isAlphanum || c = '_'

/-- The characters that a bare argument can only hold behind a backslash. -/
def endsWord (c : Char) : Bool :=
  isBlank c || c = '(' || c = ')' || c = '"' || c = '#' || c = ';'

/-- What a backslash and the character behind it mean. -/
def pairMeaning (c : Char) : Char :=
  if c = 't' then '\t' else if c = 'n' then '\n' else if c = 'r' then '\r' else c

/-! ## Bare arguments -/

/-- A bare argument with its pairs undone. -/
def plain : List Char → List Char
  | '\\' :: c :: rest => pairMeaning c :: plain rest
  | c :: rest => c :: plain rest
  | [] => []

/-- A bare value inside a guard: the expressions for `>` and `,` stand for these characters,
unless their dollar sign is escaped. -/
def plainValue : List Char → List Char
  | '\\' :: c :: rest => pairMeaning c :: plainValue rest
  | '$' :: '<' :: 'A' :: 'N' :: 'G' :: 'L' :: 'E' :: '-' :: 'R' :: '>' :: rest =>
    '>' :: plainValue rest
  | '$' :: '<' :: 'C' :: 'O' :: 'M' :: 'M' :: 'A' :: '>' :: rest => ',' :: plainValue rest
  | c :: rest => c :: plainValue rest
  | [] => []

/-- The build type and the value of a bare argument that is a guard, as they are spelt. -/
def guard? (word : List Char) : Option (List Char × List Char) := do
  let rest ← word.dropPrefix? "$<$<CONFIG:".toList
  let value ← (rest.dropWhile (· ≠ '>')).dropPrefix? ">:".toList
  if value.getLast? = some '>' then
    return (rest.takeWhile (· ≠ '>'), value.dropLast)
  else none

/-- A bare argument as it was meant. -/
def Argument.ofWord (word : List Char) : Argument :=
  match guard? word with
  | some (configuration, value) =>
    .guarded (String.ofList configuration) (String.ofList (plainValue value))
  | none => .bare (String.ofList (plain word))

/-! ## Commands -/

/-- A command whose closing bracket has not been seen. -/
structure Partial where
  name : List Char
  arguments : List Argument := []

def Partial.add (k : Partial) (arguments : List Argument) : Partial :=
  { k with arguments := k.arguments ++ arguments }

def Partial.command (k : Partial) : Command := ⟨String.ofList k.name, k.arguments⟩

/-- Where a reader stands. -/
inductive Mode where
  /-- Between two commands. -/
  | outside
  /-- In the name of a command. -/
  | naming (name : List Char)
  /-- Between two arguments. -/
  | between (k : Partial)
  /-- Between quotes. -/
  | inQuotes (k : Partial) (value : List Char)
  /-- Between quotes, behind a backslash. -/
  | inQuotesPair (k : Partial) (value : List Char)
  /-- In a bare argument. -/
  | inWord (k : Partial) (word : List Char)
  /-- In a bare argument, behind a backslash. -/
  | inWordPair (k : Partial) (word : List Char)

/-- What was read, and where the reader stands. -/
structure Reading where
  done : List Command
  mode : Mode

namespace Reading

def start : Reading := ⟨[], .outside⟩

/-- The closing bracket of a command. -/
def close (done : List Command) (k : Partial) : Reading := ⟨done ++ [k.command], .outside⟩

/-- One more character; `none` if it cannot stand here. -/
def step : Reading → Char → Option Reading
  | ⟨done, .outside⟩, c =>
    if isBlank c then some ⟨done, .outside⟩
    else if isCommandChar c then some ⟨done, .naming [c]⟩
    else none
  | ⟨done, .naming name⟩, c =>
    if isCommandChar c then some ⟨done, .naming (name ++ [c])⟩
    else if c = '(' then some ⟨done, .between { name }⟩
    else none
  | ⟨done, .between k⟩, c =>
    if isBlank c then some ⟨done, .between k⟩
    else if c = ')' then some (close done k)
    else if c = '"' then some ⟨done, .inQuotes k []⟩
    else if c = '\\' then some ⟨done, .inWordPair k []⟩
    else if endsWord c then none
    else some ⟨done, .inWord k [c]⟩
  | ⟨done, .inQuotes k value⟩, c =>
    if c = '"' then some ⟨done, .between (k.add [.quoted (String.ofList value)])⟩
    else if c = '\\' then some ⟨done, .inQuotesPair k value⟩
    else some ⟨done, .inQuotes k (value ++ [c])⟩
  | ⟨done, .inQuotesPair k value⟩, c => some ⟨done, .inQuotes k (value ++ [pairMeaning c])⟩
  | ⟨done, .inWord k word⟩, c =>
    if isBlank c then some ⟨done, .between (k.add [.ofWord word])⟩
    else if c = ')' then some (close done (k.add [.ofWord word]))
    else if c = '\\' then some ⟨done, .inWordPair k word⟩
    else if endsWord c then none
    else some ⟨done, .inWord k (word ++ [c])⟩
  | ⟨done, .inWordPair k word⟩, c => some ⟨done, .inWord k (word ++ ['\\', c])⟩

/-- All characters of a text, one after the other. -/
def run (r : Reading) (text : List Char) : Option Reading := text.foldlM step r

end Reading

/-- The commands of a text; `none` if it is no script. -/
def commands? (text : List Char) : Option (List Command) :=
  match Reading.start.run text with
  | some ⟨done, .outside⟩ => some done
  | _ => none

/-! ## Statements -/

/-- The texts of arguments that are all quoted. -/
def quotedTexts? (arguments : List Argument) : Option (List String) :=
  arguments.mapM fun
    | .quoted value => some value
    | _ => none

/-- The build type that all of the arguments count under, and their values. -/
def guardedTexts? : List Argument → Option (String × List String)
  | [] => none
  | [.guarded configuration value] => some (configuration, [value])
  | .guarded configuration value :: rest =>
    match guardedTexts? rest with
    | some (other, values) => if other = configuration then some (other, value :: values) else none
    | none => none
  | _ => none

/-- The number that a word is in base ten. -/
def number? (word : String) : Option Nat :=
  if word.toList ≠ [] ∧ word.toList.all Char.isDigit then
    some (Nat.ofDigitChars 10 word.toList 0)
  else none

/-- The answer that a word of the language stands for. -/
def answer? (yes no word : String) : Option Bool :=
  if word = yes then some true else if word = no then some false else none

end Script

open Script

/-- The list that a command appends to. -/
def ListSetting.ofCommand? (name : String) : Option ListSetting :=
  [includeDirectories, compileDefinitions, linkDirectories, linkLibraries, linkOptions].find?
    (·.command = name)

theorem ListSetting.ofCommand?_command (setting : ListSetting) :
    ofCommand? setting.command = some setting := by
  cases setting <;> rfl

/-- The standard that the arguments of a property command give. -/
def Standard.ofArguments? : List Argument → Option Standard
  | [.bare "CXX_STANDARD", .bare level, .bare "CXX_STANDARD_REQUIRED", .bare required,
      .bare "CXX_EXTENSIONS", .bare extensions, .bare "POSITION_INDEPENDENT_CODE", .bare pic] =>
    do
      return {
        level := ← number? level
        required := ← answer? "YES" "NO" required
        extensions := ← answer? "YES" "NO" extensions
        pic := ← answer? "True" "False" pic }
  | _ => none

namespace Statement

/-- The statement that a command outside every block makes. -/
def ofCommand? (command : Command) : Option Statement :=
  match command.arguments with
  | .quoted target :: rest =>
    if command.name = "add_executable" then
      (quotedTexts? rest).map (.declare .executable target)
    else if command.name = "add_library" then
      match rest with
      | .bare "SHARED" :: files => (quotedTexts? files).map (.declare .sharedLibrary target)
      | files => (quotedTexts? files).map (.declare .staticLibrary target)
    else if command.name = "add_dependencies" then
      (quotedTexts? rest).map (.depend target)
    else if command.name = "set_target_properties" then
      match rest with
      | [.bare "PROPERTIES", .bare "ARCHIVE_OUTPUT_DIRECTORY", .quoted archives,
          .bare "LIBRARY_OUTPUT_DIRECTORY", .quoted libraries,
          .bare "RUNTIME_OUTPUT_DIRECTORY", .quoted programs] =>
        if archives = libraries ∧ libraries = programs then some (.outputDirectory target archives)
        else none
      | _ => none
    else
      match rest with
      | .bare "PUBLIC" :: values => do
        let (configuration, values) ← guardedTexts? values
        return .append (← ListSetting.ofCommand? command.name) target configuration values
      | _ => none
  | _ => none

/-- The statement that a command in a block makes. -/
def ofBody? (configuration : String) (command : Command) : Option Statement :=
  match command.name, command.arguments with
  | "set_target_properties", .quoted target :: .bare "PROPERTIES" :: entries =>
    (Standard.ofArguments? entries).map (.standard target configuration)
  | "target_precompile_headers", [.quoted target, .bare "PUBLIC", .bare header] =>
    some (.precompile target configuration header)
  | _, _ => none

/-- The build type that the condition of a block asks for. -/
def condition? (command : Command) : Option String :=
  match command.arguments with
  | [.bare "CMAKE_BUILD_TYPE", .bare "STREQUAL", .bare configuration] => some configuration
  | _ => none

/-- The statements that commands make. -/
def ofCommands? : List Command → Option (List Statement)
  | [] => some []
  | command :: rest =>
    if command.name = "if" then
      match rest with
      | body :: ⟨"endif", []⟩ :: rest => do
        let statement ← ofBody? (← condition? command) body
        return statement :: (← ofCommands? rest)
      | _ => none
    else do
      let statement ← ofCommand? command
      return statement :: (← ofCommands? rest)

end Statement

/-- The statements of a script; `none` if it is none. -/
def Script.read (text : String) : Option (List Statement) :=
  (commands? text.toList).bind Statement.ofCommands?

end CMakeGen
