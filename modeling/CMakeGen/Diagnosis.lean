import CMakeGen.Disk.Basic

/-!
# Diagnoses

What the program reports to its user: a problem with the model or with a project that is being
emitted, and where it arose. A problem is kept as its cause; the wording of all of them is the
one function `Problem.message`. Problems fall into categories, each a special case of another
up to the general one, so that a caller can handle a category as a whole.
-/

namespace CMakeGen

/-- The categories of problems. -/
inductive Category where
  | general
  /-- The model is invalid. -/
  | model
  /-- A project cannot be emitted. -/
  | generation
  | unknownToolset
  | unmappedDialect
deriving DecidableEq

/-- The categories that a category is a special case of, the nearest first. -/
def Category.ancestors : Category → List Category
  | .general => []
  | .model | .generation => [.general]
  | .unknownToolset | .unmappedDialect => [.generation, .general]

/-- What is wrong. -/
inductive Problem where
  /-- Stated in words, by a caller. -/
  | stated (category : Category) (text : String)
  | unreadable (cause : Disk.Error)
  /-- The model file breaks the rules of its format. -/
  | malformed (detail : String)
  | projectsNotListed
  | unnamedProject
  | duplicateProject (name : String)
  | unknownDependency (name : String)
  | unnamedConfiguration
  | invalidConfigurationName (name : String)
  | duplicateConfiguration (name : String)
  /-- The field holds no list. -/
  | notList (key : String)
  /-- The field holds no string but the value that is shown. -/
  | notString (key shown : String)
  /-- The label that is shown names no mode of position independence. -/
  | invalidPic (shown : String)
  | unknownToolset (identifier : String)
  | unmappedDialect (label : String)
deriving DecidableEq

namespace Problem

def category : Problem → Category
  | .stated category _ => category
  | .unknownToolset _ => .unknownToolset
  | .unmappedDialect _ => .unmappedDialect
  | _ => .model

/-- The identifier or label that a problem of generation is about. -/
def subject? : Problem → Option String
  | .unknownToolset identifier => some identifier
  | .unmappedDialect label => some label
  | _ => none

def message : Problem → String
  | .stated _ text => text
  | .unreadable cause => "cannot read model: " ++ cause.message
  | .malformed detail => "invalid TOML: " ++ detail
  | .projectsNotListed => "'project' must be an array of tables"
  | .unnamedProject => "every [[project]] needs a name"
  | .duplicateProject name => "duplicate project '" ++ name ++ "'"
  | .unknownDependency name => "unknown dependency '" ++ name ++ "'"
  | .unnamedConfiguration => "every configuration needs a name"
  | .invalidConfigurationName name =>
    "invalid configuration name '" ++ name ++ "' (letters, digits and '_' only)"
  | .duplicateConfiguration name => "duplicate configuration '" ++ name ++ "'"
  | .notList key => "'" ++ key ++ "' must be a list"
  | .notString key shown => "'" ++ key ++ "' must be a string, got " ++ shown
  | .invalidPic shown => "invalid pic value " ++ shown ++ " (expected On or Off)"
  | .unknownToolset identifier => "invalid toolset '" ++ identifier ++ "'"
  | .unmappedDialect label => "unmapped language dialect '" ++ label ++ "'"

end Problem

/-- A problem and, if it is known, where it arose. -/
structure Diagnosis where
  problem : Problem
  context : Option String
deriving DecidableEq

/-- The context, if there is one that says anything, and the problem. -/
def Diagnosis.message (d : Diagnosis) : String :=
  match d.context with
  | none | some "" => d.problem.message
  | some context => context ++ ": " ++ d.problem.message

end CMakeGen
