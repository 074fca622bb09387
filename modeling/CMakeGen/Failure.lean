import CMakeGen.Emission.Generation
import CMakeGen.Workspace.File

/-!
# Failures

All ways in which an operation of the program can fail, for a caller that handles them in one
place. Each operation has its own, smaller type of errors; these are the embeddings.
-/

namespace CMakeGen

inductive Failure where
  | diagnosed (d : Diagnosis)
  | disk (e : Disk.Error)
  /-- The configuration of that name belongs to no project. -/
  | detached (configuration : String)
  /-- A toolset was registered under no identifier. -/
  | noIdentifier
  /-- The document is no table. -/
  | notTable
  /-- The configurations of a project are a value that holds nothing to go through. -/
  | notSequence
  /-- The model file is not UTF-8. -/
  | notText
  /-- The generator cannot generate. -/
  | unimplemented
  /-- There is no directory for the scripts to go to. -/
  | noOutputDir
  | tooManyDigits (e : TooManyDigits)
deriving DecidableEq

namespace Failure

/-- What is said about a failure. About a document of the wrong shape nothing is, nor about a
directory that is not there. -/
def message? : Failure → Option String
  | .diagnosed d => some d.message
  | .disk e => some e.message
  | .detached configuration => some (RenderError.detached configuration).message
  | .noIdentifier => some "at least one alias is required"
  | .unimplemented => some ""
  | .tooManyDigits e => some e.message
  | .notTable | .notSequence | .notText | .noOutputDir => none

def ofRead : Workspace.ReadError → Failure
  | .diagnosed d => .diagnosed d
  | .notTable => .notTable
  | .notSequence => .notSequence
  | .tooManyDigits e => .tooManyDigits e

def ofLoad : Workspace.LoadError → Failure
  | .read e => ofRead e
  | .nullCharacter => .disk .nullCharacter
  | .notText => .notText

def ofRender : RenderError → Failure
  | .diagnosed d => .diagnosed d
  | .detached configuration => .detached configuration

def ofRegister : Registry.RegisterError → Failure
  | .noIdentifier => .noIdentifier

def ofGenerate : GenerateError → Failure
  | .render e => ofRender e
  | .disk e => .disk e
  | .unimplemented => .unimplemented

end Failure

end CMakeGen
