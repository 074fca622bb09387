import CMakeGen.FileSystem
import CMakeGen.Toml.Document
import CMakeGen.Workspace.Basic

/-!
# Model files

A workspace is kept in a TOML file. Directories in it are read where the file is, and the
workspace is named after the file unless it says otherwise. A file that cannot be read or
breaks the rules of TOML is a problem with the model like any other; one that is no text or
holds an integer that is too long to be read, or whose path the operating system cannot be given,
is not.
-/

namespace CMakeGen.Workspace

/-- Why no workspace comes out of a file. -/
inductive LoadError where
  | read (e : ReadError)
  /-- The path holds U+0000. -/
  | nullCharacter
  /-- The file is not UTF-8. -/
  | notText
deriving DecidableEq

/-- A diagnosis about a file. -/
def LoadError.about (p : Path) (problem : Problem) : LoadError :=
  .read (.diagnosed ⟨problem, some p.toString⟩)

/-- The workspace that a model file describes. -/
def load (host : Host) (p : Path) : Except LoadError Workspace :=
  match host.disk.read host.cwd p with
  | .error .nullCharacter => .error .nullCharacter
  | .error e => .error (.about p (.unreadable e))
  | .ok contents =>
    match String.fromUTF8? contents with
    | none => .error .notText
    | some text =>
      match Toml.read text with
      | .error (.tooManyDigits digits) => .error (.read (.tooManyDigits (.reading digits)))
      | .error fault => .error (.about p (.malformed fault.message))
      | .ok table => (ofValue p.parent p.stem (.table table)).mapError .read

end CMakeGen.Workspace
