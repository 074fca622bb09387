import CMakeGen.Script.Statement

/-!
# Commands

What a reader of a script gets to see. A script is a list of commands, each a name and
arguments in brackets, and an argument is one of three things: a text between quotes, a bare
text, or a value that counts under one build type. How an argument was escaped is gone at this
level, and so is the layout.

`Statement.commands` says which commands a statement consists of. **A block is three commands**,
the condition, what stands under it and the end: nothing in a command tells whether it stands in
a block, so the meaning of a script (`Proofs/Script/Execution.lean`) has to keep track of the
blocks that are open.
-/

namespace CMakeGen

namespace Script

/-- An argument of a command, with every escape undone. -/
inductive Argument where
  /-- A text between quotes. -/
  | quoted (value : String)
  /-- A text without quotes. -/
  | bare (value : String)
  /-- A value without quotes that counts under the build type `configuration` alone. -/
  | guarded (configuration value : String)
deriving DecidableEq

/-- A command of a script. -/
structure Command where
  name : String
  arguments : List Argument
deriving DecidableEq

/-- A command that runs under one build type. -/
def block (configuration : String) (body : Command) : List Command :=
  [⟨"if", [.bare "CMAKE_BUILD_TYPE", .bare "STREQUAL", .bare configuration]⟩, body,
    ⟨"endif", []⟩]

/-- The command that gives properties of a target. -/
def setProperties (target : String) (entries : List Argument) : Command :=
  ⟨"set_target_properties", .quoted target :: .bare "PROPERTIES" :: entries⟩

/-- Properties and their values, all of them bare. -/
def bareEntries (entries : List (String × String)) : List Argument :=
  entries.flatMap fun (property, value) => [.bare property, .bare value]

/-- The properties that concern the language standard, and their values. -/
def standardEntries (s : Standard) : List (String × String) :=
  [("CXX_STANDARD", s.level.repr), ("CXX_STANDARD_REQUIRED", yesNo s.required),
    ("CXX_EXTENSIONS", yesNo s.extensions), ("POSITION_INDEPENDENT_CODE", trueFalse s.pic)]

/-- One directory under every property that says where a target is written. -/
def directoryEntries (directory : String) : List Argument :=
  outputDirectoryProperties.flatMap fun property => [.bare property, .quoted directory]

end Script

open Script in
/-- The commands that a statement consists of. -/
def Statement.commands : Statement → List Command
  | .declare .staticLibrary target files =>
    [⟨"add_library", .quoted target :: files.map .quoted⟩]
  | .declare .sharedLibrary target files =>
    [⟨"add_library", .quoted target :: .bare "SHARED" :: files.map .quoted⟩]
  | .declare .executable target files =>
    [⟨"add_executable", .quoted target :: files.map .quoted⟩]
  | .depend target others => [⟨"add_dependencies", .quoted target :: others.map .quoted⟩]
  | .outputDirectory target directory => [setProperties target (directoryEntries directory)]
  | .append setting target configuration values =>
    [⟨setting.command, .quoted target :: .bare "PUBLIC" :: values.map (.guarded configuration)⟩]
  | .standard target configuration value =>
    block configuration (setProperties target (bareEntries (standardEntries value)))
  | .precompile target configuration header =>
    block configuration
      ⟨"target_precompile_headers", [.quoted target, .bare "PUBLIC", .bare header]⟩

end CMakeGen
