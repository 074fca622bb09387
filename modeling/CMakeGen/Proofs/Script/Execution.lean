import CMakeGen.Proofs.Script.Reader

/-!
# Executing a script

What a script amounts to for one target under one build type. Commands are executed in order, and
they say things about a target in two ways: `target_…` commands append, `set_target_properties`
overwrites. The build type decides twice. A guarded value counts under its own build type alone,
and a command in blocks runs iff the conditions of all open blocks hold.

Blocks are opened and closed by commands of their own, so the machine keeps a stack of conditions.
**A statement leaves the stack as it was** (`Machine.run_commands`), which is why a script can be
taken statement by statement: `execute_eq_foldl` does away with the machine.
-/

namespace CMakeGen

namespace Script

/-- What is in effect for a target. -/
structure Effect where
  values : ListSetting → List String
  properties : String → Option String
  /-- The headers that are precompiled. -/
  headers : List String

namespace Effect

/-- Nothing has been said about the target. -/
def initial : Effect := ⟨fun _ => [], fun _ => none, []⟩

def append (e : Effect) (setting : ListSetting) (values : List String) : Effect :=
  { e with
    values := fun other => if other = setting then e.values other ++ values else e.values other }

def setProperty (e : Effect) (property value : String) : Effect :=
  { e with properties := fun other => if other = property then some value else e.properties other }

/-- Properties one after the other, so that the last value of each one stays. -/
def setProperties (e : Effect) (entries : List (String × String)) : Effect :=
  entries.foldl (fun e (property, value) => e.setProperty property value) e

/-- The directory that a target is written to. -/
def setDirectory (e : Effect) (directory : String) : Effect :=
  e.setProperties (outputDirectoryProperties.map fun property => (property, directory))

def precompile (e : Effect) (headers : List String) : Effect :=
  { e with headers := e.headers ++ headers }

end Effect

/-- What an argument stands for under a build type; `none` if it does not count. -/
def Argument.value? (buildType : String) : Argument → Option String
  | .quoted value | .bare value => some value
  | .guarded configuration value => if configuration = buildType then some value else none

/-- Arguments as properties and their values. A value that does not count leaves the property
empty. -/
def propertyEntries (buildType : String) : List Argument → List (String × String)
  | .bare property :: value :: rest =>
    (property, (value.value? buildType).getD "") :: propertyEntries buildType rest
  | _ => []

/-- What a command does to `target`. The commands that are not about what is in effect for a
target leave it alone, and so do those about another target. -/
def Command.apply (buildType target : String) (c : Command) (e : Effect) : Effect :=
  match c.arguments with
  | .quoted subject :: .bare keyword :: rest =>
    if subject ≠ target then e
    else if c.name = "set_target_properties" ∧ keyword = "PROPERTIES" then
      e.setProperties (propertyEntries buildType rest)
    else if c.name = "target_precompile_headers" ∧ keyword = "PUBLIC" then
      e.precompile (rest.filterMap (Argument.value? buildType))
    else match ListSetting.ofCommand? c.name with
      | some setting =>
        if keyword = "PUBLIC" then e.append setting (rest.filterMap (Argument.value? buildType))
        else e
      | none => e
  | _ => e

/-- An execution: for every open block whether its condition holds, the innermost first, and
what is in effect. -/
structure Machine where
  conditions : List Bool
  effect : Effect

namespace Machine

def step (buildType target : String) (m : Machine) (c : Command) : Machine :=
  if c.name = "if" then
    { m with conditions := decide (Statement.condition? c = some buildType) :: m.conditions }
  else if c.name = "endif" then { m with conditions := m.conditions.tail }
  else if m.conditions.all id then { m with effect := c.apply buildType target m.effect }
  else m

def run (buildType target : String) (m : Machine) (commands : List Command) : Machine :=
  commands.foldl (step buildType target) m

end Machine

/-- What is in effect for a target once the statements have been executed. -/
def execute (buildType target : String) (statements : List Statement) : Effect :=
  (Machine.run buildType target ⟨[], .initial⟩ (statements.flatMap Statement.commands)).effect

end Script

open Script

/-- What a statement does to `target`. -/
def Statement.effect (buildType target : String) : Statement → Effect → Effect
  | .declare .., e | .depend .., e => e
  | .outputDirectory subject directory, e =>
    if subject = target then e.setDirectory directory else e
  | .append setting subject configuration values, e =>
    if configuration = buildType ∧ subject = target then e.append setting values else e
  | .standard subject configuration value, e =>
    if configuration = buildType ∧ subject = target then e.setProperties (standardEntries value)
    else e
  | .precompile subject configuration header, e =>
    if configuration = buildType ∧ subject = target then e.precompile [header] else e

namespace Script

/-! ## Effects -/

namespace Effect

variable (e : Effect)

@[simp] theorem append_nil (setting : ListSetting) : e.append setting [] = e := by
  simp [append]

@[simp] theorem setProperties_cons (property value : String) (rest : List (String × String)) :
    e.setProperties ((property, value) :: rest)
      = (e.setProperty property value).setProperties rest := rfl

@[simp] theorem values_setProperties (entries : List (String × String)) :
    (e.setProperties entries).values = e.values := by
  induction entries generalizing e with
  | nil => rfl
  | cons entry rest ih => exact ih (e.setProperty entry.1 entry.2)

@[simp] theorem headers_setProperties (entries : List (String × String)) :
    (e.setProperties entries).headers = e.headers := by
  induction entries generalizing e with
  | nil => rfl
  | cons entry rest ih => exact ih (e.setProperty entry.1 entry.2)

theorem properties_setProperties_of_not_mem {entries : List (String × String)} {property : String}
    (h : property ∉ entries.map Prod.fst) :
    (e.setProperties entries).properties property = e.properties property := by
  induction entries generalizing e with
  | nil => rfl
  | cons entry rest ih =>
    rw [List.map_cons, List.mem_cons, not_or] at h
    rw [setProperties_cons, ih _ h.2]
    exact if_neg h.1

/-- A property that is given once has the value that it is given. -/
theorem properties_setProperties_of_mem {entries : List (String × String)}
    (hnodup : (entries.map Prod.fst).Nodup) {property value : String}
    (h : (property, value) ∈ entries) :
    (e.setProperties entries).properties property = some value := by
  induction entries generalizing e with
  | nil => cases h
  | cons entry rest ih =>
    rw [List.map_cons, List.nodup_cons] at hnodup
    rcases List.mem_cons.mp h with rfl | h
    · rw [setProperties_cons, properties_setProperties_of_not_mem _ hnodup.1]
      exact if_pos rfl
    · exact ih _ hnodup.2 h

end Effect

/-! ## Arguments -/

theorem filterMap_value?_guarded (buildType configuration : String) (values : List String) :
    (values.map (Argument.guarded configuration)).filterMap (Argument.value? buildType)
      = if configuration = buildType then values else [] := by
  by_cases h : configuration = buildType
  · have hvalue : Argument.value? buildType ∘ Argument.guarded configuration = some :=
      funext fun _ => if_pos h
    rw [if_pos h, List.filterMap_map, hvalue, List.filterMap_some]
  · have hvalue : Argument.value? buildType ∘ Argument.guarded configuration = fun _ => none :=
      funext fun _ => if_neg h
    rw [if_neg h, List.filterMap_map, hvalue, List.filterMap_none]

theorem propertyEntries_bareEntries (buildType : String) (entries : List (String × String)) :
    propertyEntries buildType (bareEntries entries) = entries := by
  induction entries with
  | nil => rfl
  | cons entry rest ih =>
    show (entry.1, entry.2) :: propertyEntries buildType (bareEntries rest) = _
    rw [ih]

theorem propertyEntries_directoryEntries (buildType directory : String) :
    propertyEntries buildType (directoryEntries directory)
      = outputDirectoryProperties.map fun property => (property, directory) := rfl

/-! ## Statements -/

section

variable {buildType target : String}

theorem apply_setProperties (subject : String) (entries : List Argument) (e : Effect) :
    (⟨"set_target_properties", .quoted subject :: .bare "PROPERTIES" :: entries⟩ :
        Command).apply buildType target e
      = if subject = target then e.setProperties (propertyEntries buildType entries) else e := by
  by_cases h : subject = target <;> simp [Command.apply, h]

theorem apply_append (setting : ListSetting) (subject configuration : String)
    (values : List String) (e : Effect) :
    (⟨setting.command, .quoted subject :: .bare "PUBLIC" :: values.map (.guarded configuration)⟩ :
        Command).apply buildType target e
      = if configuration = buildType ∧ subject = target then e.append setting values else e := by
  have hset : setting.command ≠ "set_target_properties" := by cases setting <;> decide
  have hpre : setting.command ≠ "target_precompile_headers" := by cases setting <;> decide
  have happly : (⟨setting.command, .quoted subject :: .bare "PUBLIC"
      :: values.map (.guarded configuration)⟩ : Command).apply buildType target e
      = if subject = target then e.append setting (if configuration = buildType then values else [])
        else e := by
    rw [← filterMap_value?_guarded]
    by_cases h : subject = target <;>
      simp only [Command.apply, h, hset, hpre, ListSetting.ofCommand?_command, false_and, ne_eq,
        not_true_eq_false, not_false_eq_true, if_true, if_false]
  rw [happly]
  by_cases hname : configuration = buildType <;> simp [hname]

theorem apply_precompile (subject header : String) (e : Effect) :
    (⟨"target_precompile_headers", [.quoted subject, .bare "PUBLIC", .bare header]⟩ :
        Command).apply buildType target e
      = if subject = target then e.precompile [header] else e := by
  by_cases h : subject = target <;> simp [Command.apply, h, Argument.value?]

theorem apply_of_quoted {name subject : String} (files : List String) (e : Effect) :
    (⟨name, .quoted subject :: files.map .quoted⟩ : Command).apply buildType target e = e := by
  cases files <;> rfl

theorem apply_shared (subject : String) (files : List String) (e : Effect) :
    (⟨"add_library", .quoted subject :: .bare "SHARED" :: files.map .quoted⟩ :
        Command).apply buildType target e = e := by
  by_cases h : subject = target
  · simp [Command.apply, h, show ListSetting.ofCommand? "add_library" = none by decide]
  · simp [Command.apply, h]

namespace Machine

theorem run_append (m : Machine) (a b : List Command) :
    m.run buildType target (a ++ b) = (m.run buildType target a).run buildType target b :=
  List.foldl_append

/-- A command runs iff the conditions of all open blocks hold, and leaves the blocks alone unless
it opens or closes one. -/
theorem step_command {name : String} {arguments : List Argument} (hif : name ≠ "if")
    (hendif : name ≠ "endif") (conditions : List Bool) (e : Effect) :
    step buildType target ⟨conditions, e⟩ ⟨name, arguments⟩
      = ⟨conditions, if conditions.all id then
          (⟨name, arguments⟩ : Command).apply buildType target e else e⟩ := by
  rw [step, if_neg hif, if_neg hendif]
  by_cases h : conditions.all id = true
  · rw [if_pos h, if_pos h]
  · rw [if_neg h, if_neg h]

/-- A command outside every block runs. -/
theorem run_single {name : String} {arguments : List Argument} (hif : name ≠ "if")
    (hendif : name ≠ "endif") (e : Effect) :
    run buildType target ⟨[], e⟩ [⟨name, arguments⟩]
      = ⟨[], (⟨name, arguments⟩ : Command).apply buildType target e⟩ :=
  step_command hif hendif [] e

/-- A command in a block runs iff the block is that of the build type. -/
theorem run_block {name : String} {arguments : List Argument} (hif : name ≠ "if")
    (hendif : name ≠ "endif") (configuration : String) (e : Effect) :
    run buildType target ⟨[], e⟩ (block configuration ⟨name, arguments⟩)
      = ⟨[], if configuration = buildType then
          (⟨name, arguments⟩ : Command).apply buildType target e else e⟩ := by
  have hopen : step buildType target ⟨[], e⟩
      ⟨"if", [.bare "CMAKE_BUILD_TYPE", .bare "STREQUAL", .bare configuration]⟩
      = ⟨[decide (configuration = buildType)], e⟩ := by
    simp [step, Statement.condition?]
  have hclose (e : Effect) (holds : Bool) :
      step buildType target ⟨[holds], e⟩ ⟨"endif", []⟩ = ⟨[], e⟩ := by
    simp [step]
  -- Between the first command and the last, the stack is the one condition.
  rw [run, block, List.foldl_cons, List.foldl_cons, List.foldl_cons, List.foldl_nil, hopen,
    step_command hif hendif, hclose]
  simp

/-- **A statement does what it says, and leaves no block open.** -/
theorem run_commands (s : Statement) (e : Effect) :
    run buildType target ⟨[], e⟩ s.commands = ⟨[], s.effect buildType target e⟩ := by
  cases s with
  | declare kind subject files =>
    cases kind with
    | staticLibrary =>
      exact (run_single (by decide) (by decide) e).trans (by rw [apply_of_quoted]; rfl)
    | sharedLibrary =>
      exact (run_single (by decide) (by decide) e).trans (by rw [apply_shared]; rfl)
    | executable =>
      exact (run_single (by decide) (by decide) e).trans (by rw [apply_of_quoted]; rfl)
  | depend subject others =>
    exact (run_single (by decide) (by decide) e).trans (by rw [apply_of_quoted]; rfl)
  | outputDirectory subject directory =>
    refine (run_single (by decide) (by decide) e).trans ?_
    rw [apply_setProperties, propertyEntries_directoryEntries]
    rfl
  | append setting subject configuration values =>
    refine (run_single ?_ ?_ e).trans ?_
    · cases setting <;> decide
    · cases setting <;> decide
    · rw [apply_append]
      rfl
  | standard subject configuration value =>
    refine (run_block (by decide) (by decide) configuration e).trans ?_
    rw [apply_setProperties, propertyEntries_bareEntries, ← ite_and]
    rfl
  | precompile subject configuration header =>
    refine (run_block (by decide) (by decide) configuration e).trans ?_
    rw [apply_precompile, ← ite_and]
    rfl

/-- A script does what its statements do, one after the other. -/
theorem run_flatMap (statements : List Statement) (e : Effect) :
    run buildType target ⟨[], e⟩ (statements.flatMap Statement.commands)
      = ⟨[], statements.foldl (fun e s => s.effect buildType target e) e⟩ := by
  induction statements generalizing e with
  | nil => rfl
  | cons s rest ih =>
    rw [List.flatMap_cons, run_append, run_commands, ih]
    rfl

end Machine

theorem execute_eq_foldl (buildType target : String) (statements : List Statement) :
    execute buildType target statements
      = statements.foldl (fun e s => s.effect buildType target e) .initial := by
  rw [execute, Machine.run_flatMap]

end

end Script

end CMakeGen
