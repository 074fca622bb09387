import CMakeGen.Proofs.Emission.BuildType
import CMakeGen.Proofs.Toolset.Siblings

/-!
# Where a target is written

A library is written to one directory and linked from one directory, and two parts of the program
decide which. The link side asks the configuration of the same name for it (`linkedFile`). The
script sets it without a guard, so **under every build type the last configuration decides**
(`properties_execute_emit`), and **the two sides agree iff the last configuration asks for the same
directory** (`execute_emit_directory_iff`).
-/

namespace CMakeGen

open Script

namespace Script.Effect

theorem properties_setDirectory (e : Effect) (directory : String) {property : String}
    (h : property ∈ outputDirectoryProperties) :
    (e.setDirectory directory).properties property = some directory := by
  refine properties_setProperties_of_mem e ?_ (List.mem_map.mpr ⟨property, h, rfl⟩)
  show ["ARCHIVE_OUTPUT_DIRECTORY", "LIBRARY_OUTPUT_DIRECTORY", "RUNTIME_OUTPUT_DIRECTORY"].Nodup
  decide

end Script.Effect

/-- Nothing that is guarded is about directories. -/
theorem Resolved.directory_guardedEffect (r : Resolved) (settings : Configuration) (e : Effect)
    {property : String} (h : property ∈ outputDirectoryProperties) :
    (r.guardedEffect settings e).properties property = e.properties property := by
  have hstandard : property ∉ (r.standard.toList.flatMap standardEntries).map Prod.fst := by
    intro hmem
    obtain ⟨entry, hentry, rfl⟩ := List.mem_map.mp hmem
    obtain ⟨standard, -, hentry⟩ := List.mem_flatMap.mp hentry
    have hname : entry.1 ∈ (standardEntries standard).map Prod.fst := List.mem_map_of_mem hentry
    have hdisjoint : ∀ name ∈ ["CXX_STANDARD", "CXX_STANDARD_REQUIRED", "CXX_EXTENSIONS",
        "POSITION_INDEPENDENT_CODE"], name ∉ outputDirectoryProperties := by
      decide
    exact hdisjoint _ hname h
  exact Effect.properties_setProperties_of_not_mem _ hstandard

theorem Resolved.directory_effect (buildType : String) (r : Resolved) (settings : Configuration)
    (e : Effect) {property : String} (h : property ∈ outputDirectoryProperties) :
    (r.effect buildType settings e).properties property = some settings.outputDir := by
  have hset := e.properties_setDirectory settings.outputDir h
  by_cases hname : settings.name = buildType
  · rw [effect, if_pos hname, r.directory_guardedEffect _ _ h, hset]
  · rw [effect, if_neg hname, hset]

namespace Setting

variable {x : Setting} {s : Store} {p : ProjectId} {text : String}

/-- **Under every build type, the last configuration says where the target is written.** -/
theorem properties_execute_emit (h : x.renderProject s p = .ok text)
    (hne : (s.project p).configurations ≠ []) (buildType : String) {property : String}
    (hp : property ∈ outputDirectoryProperties) :
    (execute buildType (s.project p).name (x.emit s p).statements).properties property
      = some (s.configuration ((s.project p).configurations.getLast hne)).outputDir := by
  obtain ⟨resolved, hres, hemit, -⟩ := renderProject_eq_ok_iff.mp h
  rw [hemit, execute_report]
  have hmap := hres.1
  -- The last configuration is the last step, so what the others set is overwritten.
  rcases List.eq_nil_or_concat resolved with rfl | ⟨before, last, rfl⟩
  · exact absurd hmap.symm hne
  · have hlast : (s.project p).configurations.getLast hne = last.1 := by
      simp only [← hmap, List.map_append, List.map_cons, List.map_nil, List.concat_eq_append,
        List.getLast_append_singleton]
    rw [List.concat_eq_append, List.foldl_append, hlast]
    exact last.2.directory_effect buildType _ _ hp

/-- **A configuration is written to its own directory, which is the one it is linked from, iff the
last configuration asks for that directory too.** -/
theorem execute_emit_directory_iff (h : x.renderProject s p = .ok text)
    (hnodup : ((s.project p).configurations.map fun c => (s.configuration c).name).Nodup)
    {c : ConfigurationId} (hc : c ∈ (s.project p).configurations) :
    ((∀ property ∈ outputDirectoryProperties,
        (execute (s.configuration c).name (s.project p).name (x.emit s p).statements).properties
          property = some (s.configuration c).outputDir) ↔
      (s.configuration ((s.project p).configurations.getLast
        (List.ne_nil_of_mem hc))).outputDir = (s.configuration c).outputDir) ∧
    ∀ (t : Toolset) (cwd : Location) (project : Project) (settings : Configuration),
      settings.name = (s.configuration c).name →
      t.siblingPath s cwd project (s.project p) settings
        = Toolset.withSeparator ((((s.project p).location.join
            (.ofString (s.configuration c).outputDir)).join
              (.ofString (t.libraryName (s.project p) (s.configuration c)))).relativeTo
                project.location cwd).toString := by
  refine ⟨⟨fun hall => ?_, fun hlast property hp => ?_⟩, fun t cwd project settings hname => ?_⟩
  · have hset := hall "ARCHIVE_OUTPUT_DIRECTORY" (by decide)
    rw [properties_execute_emit h (List.ne_nil_of_mem hc) _ (by decide)] at hset
    exact Option.some.inj hset
  · rw [properties_execute_emit h (List.ne_nil_of_mem hc) _ hp, hlast]
  · rw [Toolset.siblingPath, libraryPath_eq, linkedFile_of_mem t hnodup hc hname]

/-- The last of two configurations is written to its own directory. -/
theorem execute_emit_directory_iff_sample :
    (execute "Release" "core" (Sample.setting.emit Sample.store ⟨1⟩).statements).properties
      "ARCHIVE_OUTPUT_DIRECTORY" = some "bin/Release" := by
  have hok : (Sample.setting.renderProject Sample.store ⟨1⟩).isOk = true := by decide
  obtain ⟨text, h⟩ := exists_ok_of_isOk hok
  have hmem : (⟨3⟩ : ConfigurationId) ∈ (Sample.store.project ⟨1⟩).configurations := by decide
  exact (execute_emit_directory_iff h (by decide) hmem).1.mpr rfl _ (by decide)

/-- The first one is written to the directory of the last, and linked from its own. -/
theorem directory_ne_of_first :
    (Sample.setting.renderProject Sample.store ⟨1⟩).isOk = true ∧
    (Sample.store.configuration ⟨2⟩).outputDir = "bin/Debug" ∧
    (execute "Debug" "core" (Sample.setting.emit Sample.store ⟨1⟩).statements).properties
      "ARCHIVE_OUTPUT_DIRECTORY" = some "bin/Release" ∧
    Toolset.gcc.siblingPath Sample.store [] (Sample.store.project ⟨0⟩) (Sample.store.project ⟨1⟩)
      (Sample.store.configuration ⟨0⟩) = "../core/bin/Debug/libcore.so" := by
  exact ⟨by decide, by decide, by decide, by decide⟩

end Setting

end CMakeGen
