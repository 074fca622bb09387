import CMakeGen.Model.Standard
import CMakeGen.Script.Escape

/-!
# Statements

What a script says about a target, apart from how it is spelt. Two mechanisms tell the
configurations apart. Settings that are lists are appended to under any build type, with each
value guarded by the build type it counts under; properties that hold one value, and the
precompiled header, are set in a block that runs under one build type only. The directories
that a target is written to are set without either.

`Statement.toChars` is the spelling. A statement is a few lines, indented by tabs, so a script
is the lines of its statements in order.
-/

namespace CMakeGen

/-- The settings of a target that are lists. -/
inductive ListSetting where
  | includeDirectories
  | compileDefinitions
  | linkDirectories
  | linkLibraries
  | linkOptions
deriving DecidableEq

/-- The command that appends to a list. -/
def ListSetting.command : ListSetting → String
  | .includeDirectories => "target_include_directories"
  | .compileDefinitions => "target_compile_definitions"
  | .linkDirectories => "target_link_directories"
  | .linkLibraries => "target_link_libraries"
  | .linkOptions => "target_link_options"

/-- The properties that say where a target is written. -/
def outputDirectoryProperties : List String :=
  ["ARCHIVE_OUTPUT_DIRECTORY", "LIBRARY_OUTPUT_DIRECTORY", "RUNTIME_OUTPUT_DIRECTORY"]

inductive Statement where
  /-- There is a target of that kind, made of these files. -/
  | declare (kind : Kind) (target : String) (files : List String)
  /-- The target is built after others. -/
  | depend (target : String) (others : List String)
  /-- The target is written to that directory. -/
  | outputDirectory (target directory : String)
  /-- Under the build type `configuration`, values are appended to a list. -/
  | append (setting : ListSetting) (target configuration : String) (values : List String)
  /-- Under the build type `configuration`, the target is compiled to a language standard. -/
  | standard (target configuration : String) (standard : Standard)
  /-- Under the build type `configuration`, the target has a precompiled header. -/
  | precompile (target configuration header : String)
deriving DecidableEq

namespace Script

/-- A line of a script. -/
structure Line where
  depth : Nat
  text : List Char
deriving DecidableEq

def Line.toChars (l : Line) : List Char := List.replicate l.depth '\t' ++ l.text ++ ['\n']

/-- The start of a command with a quoted first argument. -/
def openCommand (command target : String) : List Char :=
  command.toList ++ '(' :: quoted target.toList

def closeCommand : List Char := [')']

/-- The condition that holds under one build type. -/
def openBlock (configuration : String) : List Char :=
  "if(CMAKE_BUILD_TYPE STREQUAL ".toList ++ configuration.toList ++ [')']

def closeBlock : List Char := "endif()".toList

def yesNo (b : Bool) : String := if b then "YES" else "NO"

def trueFalse (b : Bool) : String := if b then "True" else "False"

/-- The command that declares a target, and the arguments after its name. -/
def declaration : Kind → String × String
  | .staticLibrary => ("add_library", "")
  | .sharedLibrary => ("add_library", " SHARED")
  | .executable => ("add_executable", "")

end Script

open Script in
/-- The lines of a statement. -/
def Statement.lines : Statement → List Line
  | .declare kind target files =>
    let (command, rest) := declaration kind
    ⟨0, openCommand command target ++ rest.toList⟩
      :: files.map (fun file => ⟨1, quoted file.toList⟩) ++ [⟨0, closeCommand⟩]
  | .depend target others =>
    ⟨0, openCommand "add_dependencies" target⟩
      :: others.map (fun other => ⟨1, quoted other.toList⟩) ++ [⟨0, closeCommand⟩]
  | .outputDirectory target directory =>
    ⟨0, openCommand "set_target_properties" target ++ " PROPERTIES".toList⟩
      :: outputDirectoryProperties.map
        (fun property => ⟨1, property.toList ++ ' ' :: quoted directory.toList⟩)
      ++ [⟨0, closeCommand⟩]
  | .append setting target configuration values =>
    ⟨0, openCommand setting.command target ++ " PUBLIC".toList⟩
      :: values.map
        (fun value => ⟨1, guarded configuration.toList (literal value.toList)⟩)
      ++ [⟨0, closeCommand⟩]
  | .standard target configuration value => [
      ⟨0, openBlock configuration⟩,
      ⟨1, openCommand "set_target_properties" target ++ " PROPERTIES".toList⟩,
      ⟨2, "CXX_STANDARD ".toList ++ value.level.repr.toList⟩,
      ⟨2, "CXX_STANDARD_REQUIRED ".toList ++ (yesNo value.required).toList⟩,
      ⟨2, "CXX_EXTENSIONS ".toList ++ (yesNo value.extensions).toList⟩,
      ⟨2, "POSITION_INDEPENDENT_CODE ".toList ++ (trueFalse value.pic).toList⟩,
      ⟨1, closeCommand⟩,
      ⟨0, closeBlock⟩]
  | .precompile target configuration header => [
      ⟨0, openBlock configuration⟩,
      ⟨1, openCommand "target_precompile_headers" target ++ " PUBLIC ".toList
        ++ unquoted header.toList ++ [')']⟩,
      ⟨0, closeBlock⟩]

/-- A statement as it is spelt. -/
def Statement.toChars (s : Statement) : List Char := s.lines.flatMap Script.Line.toChars

/-- A script as it is spelt. -/
def Script.render (statements : List Statement) : String :=
  String.ofList (statements.flatMap Statement.toChars)

end CMakeGen
