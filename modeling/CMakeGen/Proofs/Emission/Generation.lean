import CMakeGen.Proofs.Disk.Files
import CMakeGen.Proofs.Emission.Files

/-!
# Projects, one after the other

Generating goes through the projects in order. At its turn a project is rendered on the disk as it is
then, which may hold the scripts of the projects before it, and its script is written. `Writes` is
that row of turns, and `Refuses` is the turn that fails. **Every run is a row of turns up to its end or
up to the first refusal** (`writes_or_refuses`), and neither depends on the projects that are still to
come or on whether the script that includes the others is wanted.

So a run on a list can be compared with a run on a part of it (`writeProjects_append`), and the rest
of the development knows a run by its row of turns alone (`run_cases`, `run_completed`).
-/

namespace CMakeGen.Generation

/-- The same generation without the script that includes the others. -/
def scriptsOnly (g : Generation) : Generation := { g with writesWorkspace := false }

/-- The place of the script of a project. -/
def scriptPlace (s : Store) (outputDir : Path) (cwd : Location) (p : ProjectId) : Location :=
  (projectFile outputDir (s.project p)).locate cwd

section

variable (x : Host → Setting) (s : Store) (outputDir : Path) (cwd : Location)

/-- Scripts are written one after the other, each rendered on the disk that those before it leave. -/
inductive Writes : Disk → List ProjectId → List String → Disk → Prop where
  | nil (disk : Disk) : Writes disk [] [] disk
  | cons {disk disk' disk'' : Disk} {p : ProjectId} {text : String} {projects : List ProjectId}
      {texts : List String} (render : (x ⟨disk, cwd⟩).renderProject s p = .ok text)
      (write : disk.write cwd (projectFile outputDir (s.project p)) text.toUTF8 = (disk', none))
      (rest : Writes disk' projects texts disk'') :
      Writes disk (p :: projects) (text :: texts) disk''

/-- A project cannot be rendered on a disk, or its script cannot be written there, and this is what is
left. -/
inductive Refuses (disk : Disk) (p : ProjectId) : GenerateError → Disk → Prop where
  | render {e : RenderError} (h : (x ⟨disk, cwd⟩).renderProject s p = .error e) :
      Refuses disk p (.render e) disk
  | write {text : String} {e : Disk.Error} {left : Disk}
      (render : (x ⟨disk, cwd⟩).renderProject s p = .ok text)
      (h : disk.write cwd (projectFile outputDir (s.project p)) text.toUTF8 = (left, some e)) :
      Refuses disk p (.disk e) left

end

variable {x : Host → Setting} {s : Store} {outputDir : Path} {cwd : Location} {disk disk' left : Disk}
  {before projects : List ProjectId} {p : ProjectId} {texts : List String} {e : GenerateError}

/-! ## A row of turns -/

/-- Either all turns succeed, or there is a first one that does not. -/
theorem writes_or_refuses (x : Host → Setting) (s : Store) (outputDir : Path) (cwd : Location)
    (disk : Disk) (projects : List ProjectId) :
    (∃ texts disk', Writes x s outputDir cwd disk projects texts disk') ∨
      ∃ before p after texts disk' e left, projects = before ++ p :: after ∧
        Writes x s outputDir cwd disk before texts disk' ∧
        Refuses x s outputDir cwd disk' p e left := by
  induction projects generalizing disk with
  | nil => exact .inl ⟨[], disk, .nil disk⟩
  | cons p rest ih =>
    cases hrender : (x ⟨disk, cwd⟩).renderProject s p with
    | error e => exact .inr ⟨[], p, rest, [], disk, _, _, rfl, .nil disk, .render hrender⟩
    | ok text =>
      rcases hwrite : disk.write cwd (projectFile outputDir (s.project p)) text.toUTF8 with
        ⟨disk₁, _ | e⟩
      · rcases ih disk₁ with
          ⟨texts, disk', h⟩ | ⟨before, q, after, texts, disk', e, left, rfl, h, he⟩
        · exact .inl ⟨_, disk', .cons hrender hwrite h⟩
        · exact .inr ⟨p :: before, q, after, _, disk', e, left, rfl, .cons hrender hwrite h, he⟩
      · exact .inr ⟨[], p, rest, [], disk, _, disk₁, rfl, .nil disk, .write hrender hwrite⟩

/-- The turn of a project in the middle of a row. -/
theorem Writes.split {after : List ProjectId}
    (h : Writes x s outputDir cwd disk (before ++ p :: after) texts disk') :
    ∃ texts₁ disk₁ text disk₂ texts₂, Writes x s outputDir cwd disk before texts₁ disk₁ ∧
      (x ⟨disk₁, cwd⟩).renderProject s p = .ok text ∧
      disk₁.write cwd (projectFile outputDir (s.project p)) text.toUTF8 = (disk₂, none) ∧
      Writes x s outputDir cwd disk₂ after texts₂ disk' := by
  induction before generalizing disk texts with
  | nil =>
    cases h with
    | cons render write rest => exact ⟨[], disk, _, _, _, .nil disk, render, write, rest⟩
  | cons q before ih =>
    cases h with
    | cons render write rest =>
      obtain ⟨texts₁, disk₁, text, disk₂, texts₂, hbefore, hrender, hwrite, hafter⟩ := ih rest
      exact ⟨_, disk₁, text, disk₂, texts₂, .cons render write hbefore, hrender, hwrite, hafter⟩

/-- What is at no place of their scripts is left alone. -/
theorem Writes.node?_eq (h : Writes x s outputDir cwd disk projects texts disk') {place : Location}
    (hplace : place ∉ projects.map (scriptPlace s outputDir cwd)) :
    disk'.node? place = disk.node? place := by
  induction h with
  | nil disk => rfl
  | cons _ write _ ih =>
    rw [List.map_cons, List.mem_cons, not_or] at hplace
    rw [ih hplace.2, Disk.node?_write write]
    exact if_neg hplace.1

theorem Writes.keepsOutside (h : Writes x s outputDir cwd disk projects texts disk') :
    disk.KeepsOutside (projects.map (scriptPlace s outputDir cwd)) disk' := by
  intro place hplace
  rw [Disk.file?, h.node?_eq hplace, Disk.file?]

theorem Writes.accessible (h : Writes x s outputDir cwd disk projects texts disk') :
    disk.Accessible disk' := by
  induction h with
  | nil disk => exact .refl disk
  | cons _ write _ ih => exact (Disk.accessible_write write).trans ih

/-- Room is where it was. -/
theorem Writes.full_eq (h : Writes x s outputDir cwd disk projects texts disk') :
    disk'.full = disk.full := by
  induction h with
  | nil disk => rfl
  | cons _ write _ ih =>
    obtain ⟨-, rfl⟩ := Disk.write_eq_none_iff.mp write
    exact ih

/-- The disk is the old one with the texts put at the places of their files, in order. -/
theorem Writes.disk_eq (h : Writes x s outputDir cwd disk projects texts disk') :
    disk' = disk.putFiles cwd
      ((projects.map fun p => projectFile outputDir (s.project p)).zip texts) := by
  induction h with
  | nil disk => rfl
  | cons _ write _ ih =>
    obtain ⟨-, rfl⟩ := Disk.write_eq_none_iff.mp write
    exact ih

/-- A project that is refused leaves the disk alone, unless its file was opened. -/
theorem Refuses.left_eq (h : Refuses x s outputDir cwd disk p e left) (he : e ≠ .disk .noSpace) :
    left = disk := by
  cases h with
  | render h => rfl
  | write render h => exact Disk.write_eq_of_ne_noSpace h fun hspace => he (congrArg _ hspace)

/-- And then it is only this file that it does not leave alone. -/
theorem Refuses.node?_eq (h : Refuses x s outputDir cwd disk p e left) {place : Location}
    (hplace : place ≠ scriptPlace s outputDir cwd p) : left.node? place = disk.node? place := by
  cases h with
  | render h => rfl
  | @write text e left render h =>
    have hnode := Disk.node?_write_of_ne disk cwd (projectFile outputDir (s.project p)) text.toUTF8
      hplace
    rwa [h] at hnode

/-! ## What a run does with it -/

variable {g : Generation}

/-- After a row of turns the run goes on with the projects that are left. -/
theorem writeProjects_append (h : Writes g.setting s outputDir cwd disk before texts disk')
    (projects rest : List ProjectId) :
    (g.writeProjects s outputDir projects (before ++ rest) ⟨disk, cwd⟩).disk
        = (g.writeProjects s outputDir projects rest ⟨disk', cwd⟩).disk ∧
      (g.writeProjects s outputDir projects (before ++ rest) ⟨disk, cwd⟩).failure
        = (g.writeProjects s outputDir projects rest ⟨disk', cwd⟩).failure ∧
      (g.writeProjects s outputDir projects (before ++ rest) ⟨disk, cwd⟩).written
        = before.map (fun p => projectFile outputDir (s.project p))
          ++ (g.writeProjects s outputDir projects rest ⟨disk', cwd⟩).written := by
  induction h with
  | nil disk => exact ⟨rfl, rfl, rfl⟩
  | cons render write _ ih =>
    obtain ⟨hdisk, hfailure, hwritten⟩ := ih
    rw [List.cons_append, writeProjects]
    simp only [render, writeFile, write, Outcome.after]
    refine ⟨hdisk, hfailure, ?_⟩
    rw [hwritten]
    rfl

/-- A refusal ends the run. -/
theorem Refuses.writeProjects (h : Refuses g.setting s outputDir cwd disk p e left)
    (projects rest : List ProjectId) :
    (g.writeProjects s outputDir projects (p :: rest) ⟨disk, cwd⟩).failure = some e ∧
      (g.writeProjects s outputDir projects (p :: rest) ⟨disk, cwd⟩).disk = left := by
  rw [Generation.writeProjects]
  cases h with
  | render h => simp only [h, Outcome.fail, and_self]
  | write render h => simp only [render, writeFile, h, Outcome.fail, and_self]

/-! ## The script that includes the others -/

section

variable {host : Host}

theorem writeWorkspace_of_not (h : g.writesWorkspace = false) :
    g.writeWorkspace s outputDir projects host = ⟨host.disk, [], [], none⟩ := by
  rw [writeWorkspace, h]
  rfl

theorem writeWorkspace_of_error (h : g.writesWorkspace = true) {error : Disk.Error}
    (hwrite : host.disk.write host.cwd (workspaceFile outputDir)
      (renderWorkspace g.workspace s projects).toUTF8 = (left, some error)) :
    g.writeWorkspace s outputDir projects host = .fail left [] (.disk error) := by
  rw [writeWorkspace, h, writeFile, hwrite]
  rfl

theorem writeWorkspace_of_ok (h : g.writesWorkspace = true)
    (hwrite : host.disk.write host.cwd (workspaceFile outputDir)
      (renderWorkspace g.workspace s projects).toUTF8 = (disk, none)) :
    g.writeWorkspace s outputDir projects host
      = ⟨disk, [workspaceFile outputDir], [wrote (workspaceFile outputDir)], none⟩ := by
  rw [writeWorkspace, h, writeFile, hwrite]
  rfl

theorem writeWorkspace_completed (h : g.writesWorkspace = true)
    (hnone : (g.writeWorkspace s outputDir projects host).failure = none) :
    host.disk.write host.cwd (workspaceFile outputDir)
        (renderWorkspace g.workspace s projects).toUTF8
        = ((g.writeWorkspace s outputDir projects host).disk, none) ∧
      (g.writeWorkspace s outputDir projects host).written = [workspaceFile outputDir] := by
  rcases hwrite : host.disk.write host.cwd (workspaceFile outputDir)
      (renderWorkspace g.workspace s projects).toUTF8 with ⟨disk, _ | error⟩
  · rw [writeWorkspace_of_ok h hwrite]
    exact ⟨rfl, rfl⟩
  · rw [writeWorkspace_of_error h hwrite] at hnone
    cases hnone

theorem writeWorkspace_failed
    (h : (g.writeWorkspace s outputDir projects host).failure = some e) :
    g.writesWorkspace = true ∧ ∃ error, e = .disk error ∧
      host.disk.write host.cwd (workspaceFile outputDir)
        (renderWorkspace g.workspace s projects).toUTF8
        = ((g.writeWorkspace s outputDir projects host).disk, some error) := by
  cases hw : g.writesWorkspace with
  | false =>
    rw [writeWorkspace_of_not hw] at h
    cases h
  | true =>
    rcases hwrite : host.disk.write host.cwd (workspaceFile outputDir)
        (renderWorkspace g.workspace s projects).toUTF8 with ⟨disk, _ | error⟩
    · rw [writeWorkspace_of_ok hw hwrite] at h
      cases h
    · rw [writeWorkspace_of_error hw hwrite] at h ⊢
      exact ⟨rfl, error, (Option.some.inj h).symm, rfl⟩

end

/-! ## Whole runs -/

variable {host : Host} {made : Disk}

theorem run_of_not_made {error : Disk.Error}
    (h : host.disk.makeDirectories host.cwd outputDir = (made, some error)) :
    g.run host s projects outputDir = .fail made [] (.disk error) := by
  rw [run, h]

/-- After the last turn only the script that includes the others is left. -/
theorem run_of_writes (g : Generation)
    (hmade : host.disk.makeDirectories host.cwd outputDir = (made, none))
    (h : Writes g.setting s outputDir host.cwd made projects texts disk) :
    (g.run host s projects outputDir).disk
        = (g.writeWorkspace s outputDir projects ⟨disk, host.cwd⟩).disk ∧
      (g.run host s projects outputDir).failure
        = (g.writeWorkspace s outputDir projects ⟨disk, host.cwd⟩).failure ∧
      (g.run host s projects outputDir).written
        = projects.map (fun p => projectFile outputDir (s.project p))
          ++ (g.writeWorkspace s outputDir projects ⟨disk, host.cwd⟩).written := by
  have happend := writeProjects_append h projects []
  rw [List.append_nil] at happend
  rw [run, hmade]
  exact happend

theorem run_of_refuses (hmade : host.disk.makeDirectories host.cwd outputDir = (made, none))
    (h : Writes g.setting s outputDir host.cwd made before texts disk)
    (hrefuses : Refuses g.setting s outputDir host.cwd disk p e left) (after : List ProjectId) :
    (g.run host s (before ++ p :: after) outputDir).failure = some e ∧
      (g.run host s (before ++ p :: after) outputDir).disk = left := by
  obtain ⟨hdisk, hfailure, -⟩ := writeProjects_append h (before ++ p :: after) (p :: after)
  obtain ⟨hend, hlast⟩ := hrefuses.writeProjects (before ++ p :: after) after
  rw [run, hmade]
  exact ⟨hfailure.trans hend, hdisk.trans hlast⟩

/-- How far a run gets. -/
theorem run_cases (g : Generation) (host : Host) (s : Store) (projects : List ProjectId)
    (outputDir : Path) :
    (∃ made error, host.disk.makeDirectories host.cwd outputDir = (made, some error)) ∨
      ∃ made, host.disk.makeDirectories host.cwd outputDir = (made, none) ∧
        ((∃ texts disk, Writes g.setting s outputDir host.cwd made projects texts disk) ∨
          ∃ before p after texts disk e left, projects = before ++ p :: after ∧
            Writes g.setting s outputDir host.cwd made before texts disk ∧
            Refuses g.setting s outputDir host.cwd disk p e left) := by
  rcases hmade : host.disk.makeDirectories host.cwd outputDir with ⟨made, _ | error⟩
  · exact .inr ⟨made, rfl, writes_or_refuses g.setting s outputDir host.cwd made projects⟩
  · exact .inl ⟨made, error, rfl⟩

/-- A row of turns is a run without the script that includes the others. -/
theorem Writes.run_scriptsOnly (h : Writes g.setting s outputDir host.cwd made projects texts disk)
    (hmade : host.disk.makeDirectories host.cwd outputDir = (made, none)) :
    (g.scriptsOnly.run host s projects outputDir).disk = disk ∧
      (g.scriptsOnly.run host s projects outputDir).failure = none := by
  obtain ⟨hdisk, hfailure, -⟩ := run_of_writes g.scriptsOnly hmade h
  rw [hdisk, hfailure, writeWorkspace_of_not rfl]
  exact ⟨rfl, rfl⟩

/-- A run that does not fail has come to its end. -/
theorem run_completed (h : (g.run host s projects outputDir).failure = none) :
    ∃ made texts, host.disk.makeDirectories host.cwd outputDir = (made, none) ∧
      Writes g.setting s outputDir host.cwd made projects texts
        (g.scriptsOnly.run host s projects outputDir).disk ∧
      (g.run host s projects outputDir).disk = (g.writeWorkspace s outputDir projects
        ⟨(g.scriptsOnly.run host s projects outputDir).disk, host.cwd⟩).disk ∧
      (g.writeWorkspace s outputDir projects
        ⟨(g.scriptsOnly.run host s projects outputDir).disk, host.cwd⟩).failure = none ∧
      (g.run host s projects outputDir).written
        = (projects.map fun p => projectFile outputDir (s.project p))
          ++ (g.writeWorkspace s outputDir projects
            ⟨(g.scriptsOnly.run host s projects outputDir).disk, host.cwd⟩).written := by
  rcases run_cases g host s projects outputDir with ⟨made, error, hmade⟩ | ⟨made, hmade, hcases⟩
  · rw [run_of_not_made hmade] at h
    cases h
  · rcases hcases with
      ⟨texts, disk, hwrites⟩ | ⟨before, p, after, texts, disk, e, left, rfl, hwrites, hrefuses⟩
    · obtain ⟨hdisk, hfailure, hwritten⟩ := run_of_writes g hmade hwrites
      rw [(hwrites.run_scriptsOnly hmade).1]
      exact ⟨made, texts, hmade, hwrites, hdisk, hfailure.symm.trans h, hwritten⟩
    · rw [(run_of_refuses hmade hwrites hrefuses after).1] at h
      cases h

/-- A run without that script that succeeds is a row of turns. -/
theorem writes_of_run_scriptsOnly
    (h : (g.scriptsOnly.run host s projects outputDir).failure = none) :
    ∃ made texts, host.disk.makeDirectories host.cwd outputDir = (made, none) ∧
      Writes g.setting s outputDir host.cwd made projects texts
        (g.scriptsOnly.run host s projects outputDir).disk := by
  obtain ⟨made, texts, hmade, hwrites, -⟩ := run_completed h
  exact ⟨made, texts, hmade, hwrites⟩

/-! ## What is left alone -/

theorem workspacePlace_not_mem (s : Store) (outputDir : Path) (cwd : Location)
    (projects : List ProjectId) :
    (workspaceFile outputDir).locate cwd ∉ projects.map (scriptPlace s outputDir cwd) := by
  intro hmem
  obtain ⟨p, -, hp⟩ := List.mem_map.mp hmem
  exact locate_projectFile_ne outputDir cwd (s.project p) hp

theorem keepsOutside_made {error : Option Disk.Error}
    (h : host.disk.makeDirectories host.cwd outputDir = (made, error)) (places : List Location) :
    host.disk.KeepsOutside places made := by
  intro place _
  have hfile := Disk.file?_makeDirectories host.disk host.cwd outputDir place
  rwa [h] at hfile

/-- A run without the list of the scripts changes the scripts alone. -/
theorem keepsOutside_scriptsOnly
    (h : (g.scriptsOnly.run host s projects outputDir).failure = none) :
    host.disk.KeepsOutside (projects.map (scriptPlace s outputDir host.cwd))
      (g.scriptsOnly.run host s projects outputDir).disk := by
  obtain ⟨made, texts, hmade, hwrites⟩ := writes_of_run_scriptsOnly h
  intro place hplace
  rw [hwrites.keepsOutside place hplace, keepsOutside_made hmade _ place hplace]

section

variable (hmade : host.disk.makeDirectories host.cwd outputDir = (made, none))
  (h : Writes g.setting s outputDir host.cwd made before texts disk)

include hmade h

/-- A row of turns changes the scripts, and makes directories on the way to them. -/
theorem Writes.onlyMakesWay :
    host.disk.OnlyMakesWay outputDir host.cwd (before.map (scriptPlace s outputDir host.cwd))
      disk := by
  have hway := Disk.onlyMakesWay_makeDirectories host.disk host.cwd outputDir
  rw [hmade] at hway
  exact hway.trans_node? (List.nil_subset _) fun place hplace => h.node?_eq hplace

/-- A refusal changes no more than the script of the project. -/
theorem Refuses.onlyMakesWay (hrefuses : Refuses g.setting s outputDir host.cwd disk p e left) :
    host.disk.OnlyMakesWay outputDir host.cwd
      ((before ++ [p]).map (scriptPlace s outputDir host.cwd)) left := by
  refine (h.onlyMakesWay hmade).trans_node? ?_ fun place hplace => ?_
  · rw [List.map_append]
    exact List.subset_append_left _ _
  · rw [List.map_append, List.mem_append, not_or] at hplace
    exact hrefuses.node?_eq fun hp => hplace.2 (List.mem_singleton.mpr hp)

end

/-! ## What every step keeps -/

/-- Whatever making a directory and writing a file keep is kept by a run, however it ends. -/
theorem run_induction {P : Disk → Prop} (g : Generation) (s : Store) (projects : List ProjectId)
    (outputDir : Path)
    (hmake : ∀ {d d' : Disk} {p : Path}, d.makeDirectory host.cwd p = .ok d' → P d → P d')
    (hwrite : ∀ {d : Disk} (p : Path) (contents : ByteArray), P d →
      P (d.write host.cwd p contents).1)
    (hdisk : P host.disk) : P (g.run host s projects outputDir).disk := by
  have hfile {d : Disk} {file : Path} {text : String} {next : Disk → Outcome} (hd : P d)
      (hnext : ∀ d, P d → P (next d).disk) : P (writeFile ⟨d, host.cwd⟩ file text next).disk := by
    have hleft := hwrite file text.toUTF8 hd
    rw [writeFile]
    split
    · next h =>
      rw [h] at hleft
      exact hleft
    · next h =>
      rw [h] at hleft
      exact hnext _ hleft
  have hlist {d : Disk} (hd : P d) :
      P (g.writeWorkspace s outputDir projects ⟨d, host.cwd⟩).disk := by
    rw [writeWorkspace]
    split
    · exact hfile hd fun _ hd => hd
    · exact hd
  have hturns (rest : List ProjectId) {d : Disk} (hd : P d) :
      P (g.writeProjects s outputDir projects rest ⟨d, host.cwd⟩).disk := by
    induction rest generalizing d with
    | nil => exact hlist hd
    | cons p rest ih =>
      rw [writeProjects]
      dsimp only
      split
      · exact hd
      · exact hfile hd fun _ hd => ih hd
  have hmade := Disk.makeDirectoriesAlong_induction (P := P) outputDir.root
    outputDir.segments.reverse (fun _ => hmake) hdisk
  rw [run, Disk.makeDirectories]
  split
  · next h =>
    rw [h] at hmade
    exact hmade
  · next h =>
    rw [h] at hmade
    exact hturns projects hmade

end CMakeGen.Generation
