import CMakeGen.Text.Digit
import CMakeGen.Log

/-!
# Command-line arguments

The arguments are read in two rounds. First each is classified by itself: `--` ends the options,
and before it whatever begins with a dash and names an option, in full or by an unambiguous
beginning of a long name, is that option, and what follows an equals sign is attached to it. A
dash followed by a known letter is an option with the rest of the argument attached. Whatever
else begins with a dash is an unknown option, unless it looks like a negative number or holds a
space.

What is attached to an option is its value. Attached to an option of one letter that takes none
it is a row of further such options, each read without its dash (`cluster`).

Then they are consumed from left to right. The first argument that is no option is the command;
what follows it is classified again by the options of the command. What nobody consumes is an
error, reported after everything else, while a request for help or for the version is answered
where it stands.
-/

namespace CMakeGen.CommandLine

/-- What an option asks for. -/
inductive Switch where
  | help
  | version
  | verbose
  | debug
  | outputDir
  | toolset
deriving DecidableEq

/-- Whether an option is followed by a value. -/
def Switch.takesValue : Switch → Bool
  | .outputDir | .toolset => true
  | _ => false

/-- The options that are known at some point, by spelling. -/
abbrev Options := List (String × Switch)

def helpOptions : Options := [("-h", .help), ("--help", .help)]

/-- The options before the command. -/
def leadingOptions : Options := helpOptions ++ [("--version", .version)]

/-- The options of every command. -/
def commonOptions : Options :=
  helpOptions ++ [("-v", .verbose), ("--verbose", .verbose), ("--debug", .debug)]

def generateOptions : Options :=
  commonOptions ++ [("-B", .outputDir), ("--output-dir", .outputDir), ("--cc", .toolset)]

/-- How the arguments can be wrong. -/
inductive Misuse where
  | ambiguousOption (text : String)
  | missingValue (option : String)
  | unwantedValue (option value : String)
  | unknownCommand (text : String)
  | missingModel
  | unrecognized (texts : List String)
deriving DecidableEq

def Misuse.message : Misuse → String
  | .ambiguousOption text => "ambiguous option: " ++ text
  | .missingValue option => "argument " ++ option ++ ": expected one argument"
  | .unwantedValue option value =>
    "argument " ++ option ++ ": ignored explicit argument '" ++ value ++ "'"
  | .unknownCommand text => "invalid choice: '" ++ text ++ "'"
  | .missingModel => "the following arguments are required: model"
  | .unrecognized texts => "unrecognized arguments: " ++ " ".intercalate texts

/-! ## Classification -/

/-- An option as an argument spells it, and what the same argument attaches to it. -/
structure Spelt where
  switch : Switch
  spelling : String
  attached : Option (List Char)
deriving DecidableEq

/-- An argument, classified. -/
inductive Token where
  /-- The first `--`. -/
  | separator
  | argument (text : String)
  | option (text : String) (o : Spelt)
  | unknown (text : String)
deriving DecidableEq

def Token.text : Token → String
  | .separator => "--"
  | .argument text | .option text _ | .unknown text => text

/-- A text before and after its first equals sign, if it has one. -/
def splitEquals (cs : List Char) : List Char × Option (List Char) :=
  match cs.dropWhile (· ≠ '=') with
  | [] => (cs, none)
  | _ :: value => (cs.takeWhile (· ≠ '='), some value)

/-- The options that an argument can stand for when it is none by its full name. -/
def candidates (options : Options) (cs : List Char) : List Spelt :=
  match cs with
  | '-' :: '-' :: _ =>
    let (start, value) := splitEquals cs
    (options.filter fun (spelling, _) => start.isPrefixOf spelling.toList).map
      fun (spelling, switch) => ⟨switch, spelling, value⟩
  | _ =>
    options.filterMap fun (spelling, switch) =>
      if spelling.toList = cs.take 2 then some ⟨switch, spelling, some (cs.drop 2)⟩
      else if cs.isPrefixOf spelling.toList then some ⟨switch, spelling, none⟩
      else none

/-- A dash and digits, with a decimal point before the last of them or not. A newline may
follow. -/
def isNegativeNumber (cs : List Char) : Bool :=
  match cs with
  | '-' :: rest =>
    let rest := if rest.getLast? = some '\n' then rest.dropLast else rest
    let whole := rest.takeWhile Text.isDecimalDigit
    match rest.drop whole.length with
    | [] => ! whole.isEmpty
    | '.' :: fraction => ! fraction.isEmpty && fraction.all Text.isDecimalDigit
    | _ => false
  | _ => false

/-- An argument before `--`, classified. -/
def classify (options : Options) (text : String) : Except Misuse Token :=
  let cs := text.toList
  if cs.head? ≠ some '-' then .ok (.argument text)
  else match options.lookup text with
    | some switch => .ok (.option text ⟨switch, text, none⟩)
    | none =>
      if cs.length = 1 then .ok (.argument text)
      else
        let (start, value) := splitEquals cs
        match value, options.lookup (String.ofList start) with
        | some value, some switch =>
          .ok (.option text ⟨switch, String.ofList start, some value⟩)
        | _, _ =>
          match candidates options cs with
          | [o] => .ok (.option text o)
          | _ :: _ :: _ => .error (.ambiguousOption text)
          | [] =>
            .ok (if isNegativeNumber cs || cs.contains ' ' then .argument text else .unknown text)

/-- All arguments, classified. -/
def classifyAll (options : Options) : List String → Except Misuse (List Token)
  | [] => .ok []
  | text :: rest =>
    if text = "--" then .ok (.separator :: rest.map .argument)
    else do
      let token ← classify options text
      return token :: (← classifyAll options rest)

/-! ## Consumption -/

/-- The options that one argument spells: those that are switched on, and the one at the end if
it takes a value, with the value if that is attached. -/
structure Cluster where
  switches : List Switch
  last : Option (Switch × String × Option String)

/-- Whether an option is spelt with two dashes. -/
def isLong (spelling : String) : Bool := spelling.toList[1]? = some '-'

/-- The option that a letter stands for in a row behind an option. -/
def following? (options : Options) (spelling : String) (letter : Char) :
    Option (Switch × String) :=
  let next := String.ofList ['-', letter]
  if isLong spelling then none else (options.lookup next).map (·, next)

/-- The options that an argument spells, the first one and those in what is attached to it. -/
def cluster (options : Options) (switch : Switch) (spelling : String) :
    Option (List Char) → Except Misuse Cluster
  | none =>
    .ok (if switch.takesValue then ⟨[], some (switch, spelling, none)⟩ else ⟨[switch], none⟩)
  | some attached =>
    if switch.takesValue then .ok ⟨[], some (switch, spelling, some (String.ofList attached))⟩
    else match attached with
      | [] => .error (.unwantedValue spelling "")
      | letter :: rest =>
        match following? options spelling letter with
        | none => .error (.unwantedValue spelling (String.ofList (letter :: rest)))
        | some (nextSwitch, next) => do
          let c ← match rest with
            | [] => cluster options nextSwitch next none
            | c :: rest => cluster options nextSwitch next (some (c :: rest))
          return { c with switches := switch :: c.switches }
termination_by attached => (attached.map (·.length + 1)).getD 0

/-- What the arguments have said so far. -/
structure Settings where
  verbose : Bool := false
  debug : Bool := false
  /-- Where the scripts go; `none` if the option was given without a value. -/
  outputDir : Option String := some "build"
  toolset : Option String := none
  model : Option String := none
  /-- What nobody consumed. -/
  extras : List String := []
deriving DecidableEq

/-- Why reading the arguments ends before a command can be run. -/
inductive Stop where
  | help
  | version
  | misuse (m : Misuse)
deriving DecidableEq

/-- Do what an option without a value asks for. -/
def Settings.apply (s : Settings) : Switch → Except Stop Settings
  | .help => .error .help
  | .version => .error .version
  | .verbose => .ok { s with verbose := true }
  | .debug => .ok { s with debug := true }
  | .outputDir | .toolset => .ok s

/-- The value of an option. A separator in its place, which can only be an attached one, is
dropped, and then the option is given without a value. -/
def valueOf? (text : String) : Option String := if text = "--" then none else some text

/-- Do what an option with a value asks for. -/
def Settings.applyValue (s : Settings) (text : String) : Switch → Settings
  | .outputDir => { s with outputDir := valueOf? text }
  | .toolset => { s with toolset := valueOf? text }
  | _ => s

/-- The arguments of a command, consumed from left to right; it takes a model if
`takesModel`. A value is looked for in the argument behind its option, and `--` is none. -/
def consume (options : Options) (takesModel : Bool) : List Token → Settings → Except Stop Settings
  | [], s => .ok s
  | .unknown text :: rest, s =>
    consume options takesModel rest { s with extras := s.extras ++ [text] }
  | .option _ o :: rest, s => do
    let c ← (cluster options o.switch o.spelling o.attached).mapError .misuse
    match c.last, rest with
    | none, rest => consume options takesModel rest (← c.switches.foldlM Settings.apply s)
    | some (switch, _, some value), rest =>
      let s ← c.switches.foldlM Settings.apply s
      consume options takesModel rest (s.applyValue value switch)
    | some (switch, _, none), .argument value :: rest =>
      let s ← c.switches.foldlM Settings.apply s
      consume options takesModel rest (s.applyValue value switch)
    | some (_, spelling, none), _ => .error (.misuse (.missingValue spelling))
  | .argument text :: rest, s =>
    if takesModel && s.model.isNone then
      match rest with
      | .separator :: rest => consume options takesModel rest { s with model := some text }
      | rest => consume options takesModel rest { s with model := some text }
    else consume options takesModel rest { s with extras := s.extras ++ [text] }
  | .separator :: rest, s =>
    match takesModel && s.model.isNone, rest with
    | true, .argument text :: rest => consume options takesModel rest { s with model := some text }
    | _, rest => consume options takesModel rest { s with extras := s.extras ++ ["--"] }

/-! ## Requests -/

/-- What a command is to do. -/
inductive Command where
  | generate (model : String) (outputDir toolset : Option String)
  | info (model : String)
  | toolsets
deriving DecidableEq

/-- What the arguments ask for. -/
inductive Request where
  | run (verbosity : Log.Verbosity) (command : Command)
  /-- Nothing: there is no command. -/
  | nothing
deriving DecidableEq

def Settings.verbosity (s : Settings) : Log.Verbosity :=
  if s.debug then .debug else if s.verbose then .verbose else .quiet

/-- A command by name: its options, whether it takes a model, and what it does. -/
def command? : String → Option (Options × Bool × (Settings → String → Command))
  | "generate" => some (generateOptions, true, fun s model => .generate model s.outputDir s.toolset)
  | "info" => some (commonOptions, true, fun _ model => .info model)
  | "toolsets" => some (commonOptions, false, fun _ _ => .toolsets)
  | _ => none

/-- The request of a command with the arguments behind it; `extras` are what nobody consumed
before it. -/
def readCommand (name : String) (arguments extras : List String) : Except Stop Request :=
  match command? name with
  | none => .error (.misuse (.unknownCommand name))
  | some (options, takesModel, make) => do
    let tokens ← (classifyAll options arguments).mapError .misuse
    let s ← consume options takesModel tokens {}
    if takesModel && s.model.isNone then .error (.misuse .missingModel)
    else match extras ++ s.extras with
      | [] => .ok (.run s.verbosity (make s (s.model.getD "")))
      | unrecognized => .error (.misuse (.unrecognized unrecognized))

/-- The request of classified arguments; `extras` are those that nobody consumed so far. -/
def readTokens (extras : List String) : List Token → Except Stop Request
  | [] =>
    match extras with
    | [] => .ok .nothing
    | extras => .error (.misuse (.unrecognized extras))
  | .unknown text :: rest => readTokens (extras ++ [text]) rest
  | .option _ o :: rest => do
    let c ← (cluster leadingOptions o.switch o.spelling o.attached).mapError .misuse
    let _ ← c.switches.foldlM Settings.apply {}
    readTokens extras rest
  | .argument name :: rest => readCommand name (rest.map Token.text) extras
  | [.separator] => readTokens (extras ++ ["--"]) []
  | .separator :: _ => .error (.misuse (.unknownCommand "--"))

/-- What the arguments ask for. -/
def readArguments (arguments : List String) : Except Stop Request := do
  readTokens [] (← (classifyAll leadingOptions arguments).mapError .misuse)

end CMakeGen.CommandLine
