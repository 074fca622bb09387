import CMakeGen.Emission.Project
import CMakeGen.Proofs.Script.RoundTrip

/-!
# Reading the script that includes the others

The script of a workspace is made of three commands, each on a line, and the last of them is said of
every project. **Nothing is asked of a name**: between quotes every text is read back as it is
(`commands?_renderWorkspace`), so a reader finds the very files that were written, in order.
-/

namespace CMakeGen

namespace Script

/-- The files that a script includes, in order; `none` if it is no script, or if one of them is not
between quotes. -/
def includes? (text : String) : Option (List String) :=
  (commands? text.toList).bind fun commands =>
    quotedTexts? ((commands.filter (·.name = "include")).flatMap (·.arguments))

/-- The commands of the script of a workspace. -/
def workspaceCommands (given : Option String) (s : Store) (projects : List ProjectId) :
    List Command :=
  ⟨"cmake_minimum_required", [.bare "VERSION", .bare minimumVersion]⟩
    :: ⟨"project", [.quoted (workspaceName given s projects)]⟩
    :: projects.map fun p => ⟨"include", [.quoted (scriptName (s.project p))]⟩

/-- A command that is a line of its own. -/
def commandLine (name : String) (text : List Char) : List Char :=
  name.toList ++ '(' :: (text ++ [')', '\n'])

namespace Reading

theorem run_commandLine {name : String} (h : IsCommandName name) {text : List Char}
    {arguments : List Argument} (ht : Reads text arguments) (done : List Command)
    (rest : List Char) :
    run ⟨done, .outside⟩ (commandLine name text ++ rest)
      = run ⟨done ++ [⟨name, arguments⟩], .outside⟩ rest := by
  have hcommand : (Partial.add { name := name.toList } arguments).command = ⟨name, arguments⟩ := by
    rw [Partial.command, Partial.add, String.ofList_toList]
    rfl
  rw [commandLine, List.append_assoc, List.cons_append, run_name h, List.append_assoc,
    List.cons_append, ht _ _ _ _ (Or.inr rfl), ← hcommand]
  exact (run_cons_of_step rfl _).trans (run_blank_outside (by decide) _ rest)

/-- Commands of one kind, each of them a line. -/
theorem run_commandLines {α : Type} {name : String} (h : IsCommandName name)
    (value : α → String) (items : List α) (done : List Command) :
    run ⟨done, .outside⟩ (items.flatMap fun x => commandLine name (quoted (value x).toList))
      = some ⟨done ++ items.map fun x => ⟨name, [.quoted (value x)]⟩, .outside⟩ := by
  induction items generalizing done with
  | nil =>
    rw [List.map_nil, List.append_nil]
    rfl
  | cons x items ih =>
    rw [List.flatMap_cons, run_commandLine h (reads_quoted_string _), ih, List.append_assoc]
    rfl

end Reading

variable (given : Option String) (s : Store) (projects : List ProjectId)

theorem toList_renderWorkspace :
    (renderWorkspace given s projects).toList
      = commandLine "cmake_minimum_required" ("VERSION".toList ++ ' ' :: minimumVersion.toList)
        ++ (commandLine "project" (quoted (workspaceName given s projects).toList)
        ++ projects.flatMap fun p =>
          commandLine "include" (quoted (scriptName (s.project p)).toList)) := by
  have hfirst : "cmake_minimum_required(VERSION ".toList
      = "cmake_minimum_required".toList ++ '(' :: ("VERSION".toList ++ [' ']) := by simp
  have hsecond : "project(".toList = "project".toList ++ ['('] := by simp
  have hthird : "include(".toList = "include".toList ++ ['('] := by simp
  unfold renderWorkspace commandLine
  simp only [String.toList_ofList, hfirst, hsecond, hthird]
  simp only [List.append_assoc, List.cons_append, List.nil_append]

/-- What the script of a workspace starts with, whatever it includes. -/
def workspaceHead (name : String) : List Char :=
  commandLine "cmake_minimum_required" ("VERSION".toList ++ ' ' :: minimumVersion.toList)
    ++ commandLine "project" (quoted name.toList)

/-- The line that includes the script of a project. -/
def includeLine (s : Store) (p : ProjectId) : List Char :=
  commandLine "include" (quoted (scriptName (s.project p)).toList)

/-- With a name of its own, a workspace says nothing of its projects but their lines. -/
theorem renderWorkspace_some (name : String) (s : Store) (projects : List ProjectId) :
    renderWorkspace (some name) s projects
      = String.ofList (workspaceHead name ++ projects.flatMap (includeLine s)) := by
  rw [← String.ofList_toList (s := renderWorkspace (some name) s projects),
    toList_renderWorkspace, workspaceHead, List.append_assoc]
  rfl

theorem commands?_renderWorkspace :
    commands? (renderWorkspace given s projects).toList
      = some (workspaceCommands given s projects) := by
  have hversion : Reads ("VERSION".toList ++ ' ' :: minimumVersion.toList)
      [.bare "VERSION", .bare minimumVersion] :=
    (IsKeyword.reads (by decide)).space (IsKeyword.reads (by decide))
  rw [commands?, toList_renderWorkspace, Reading.start, Reading.run_commandLine (by decide) hversion,
    Reading.run_commandLine (by decide) (Reading.reads_quoted_string _),
    Reading.run_commandLines (by decide)]
  rfl

theorem includes?_renderWorkspace :
    includes? (renderWorkspace given s projects)
      = some (projects.map fun p => scriptName (s.project p)) := by
  have hnames : (workspaceCommands given s projects).filter (·.name = "include")
      = projects.map fun p => ⟨"include", [.quoted (scriptName (s.project p))]⟩ := by
    simp [workspaceCommands, List.filter_map, Function.comp_def]
  rw [includes?, commands?_renderWorkspace, Option.bind_some, hnames, List.flatMap_map,
    ← quotedTexts?_map, List.map_map, List.map_eq_flatMap]
  rfl

end Script

end CMakeGen
