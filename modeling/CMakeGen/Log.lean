/-!
# The log

What a run has to say besides its result: entries with a level and the part of the program
that speaks. How much of it is shown, and whether the part is named, depends on how talkative
the run was asked to be.
-/

namespace CMakeGen

namespace Log

inductive Level where
  | debug
  | info
  | error
deriving DecidableEq

/-- The parts of the program that write to the log. -/
inductive Part where
  | commandLine
  | workspace
  | links
  | header
  | toolset
  | generation
deriving DecidableEq

structure Entry where
  level : Level
  part : Part
  message : String
deriving DecidableEq

/-- How much of the log is shown. -/
inductive Verbosity where
  | quiet
  | verbose
  /-- Everything, with the parts named. -/
  | debug
deriving DecidableEq

def Level.name : Level → String
  | .debug => "DEBUG"
  | .info => "INFO"
  | .error => "ERROR"

def Part.name : Part → String
  | .commandLine => "pcmake"
  | .workspace => "pcmake.core.loader"
  | .links => "pcmake.core.links"
  | .header => "pcmake.core.pch"
  | .toolset => "pcmake.tools.toolset"
  | .generation => "pcmake.generators.cmake"

/-- Whether an entry of a level is shown. -/
def Verbosity.shows : Verbosity → Level → Bool
  | .debug, _ => true
  | .verbose, level => level ≠ .debug
  | .quiet, level => level = .error

def Entry.line (verbosity : Verbosity) (e : Entry) : String :=
  e.level.name ++ ": " ++ (if verbosity = .debug then e.part.name ++ ": " else "")
    ++ e.message ++ "\n"

/-- The lines of a log that are shown. -/
def render (verbosity : Verbosity) (entries : List Entry) : String :=
  String.join ((entries.filter fun e => verbosity.shows e.level).map (Entry.line verbosity))

end Log

end CMakeGen
