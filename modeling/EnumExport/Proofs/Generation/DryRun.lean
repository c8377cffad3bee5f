import EnumExport.Proofs.Generation.Following

namespace EnumExport

namespace Step

variable {settings : Settings} {disk : Disk} {paths : List Path}

theorem stores?_ne_none_of_isOwn (hplace : settings.place.IsNullFree) {effects : List Effect}
    (hown : ∀ effect ∈ effects, effect.IsOwn settings.place) :
    ∀ file ∈ Effect.files settings effects, disk.stores? file.path ≠ none := by
  intro file hfile
  obtain ⟨name, hmem⟩ := Effect.files_subset settings effects file hfile
  exact Disk.stores?_ne_none (hasNull_of_isOwn hplace (hown _ (Effect.mem_scripts_iff.mp hmem)))

theorem generatePaths_spec (hplace : settings.place.IsNullFree) (htree : disk.IsTree)
    (hseparate : disk.IsSeparate settings.place paths) {files : List Path}
    (hfiles : disk.sourceFiles paths = .ok files) :
    (generatePaths settings paths).outcome { disk := disk } =
        (disk.plan settings files).ending.map (fun _ => disk.count settings files) ∧
      Performed settings (disk.plan settings files).begun { disk := disk }
        ((generatePaths settings paths).after { disk := disk }) := by
  have hsteady := Disk.isSteady_of_mem_sourceFiles htree hseparate hfiles
  have hfiled := isFiled_plan hseparate.isApart.extension disk files
  have hadmits : ∀ file ∈ Effect.files settings (disk.plan settings files).begun,
      disk.stores? file.path ≠ none :=
    stores?_ne_none_of_isOwn hplace (isOwn_begun settings disk files)
  have hrun := @generatePaths_eq_follow settings disk { disk := disk } paths files
    hseparate.isApart htree hsteady (.refl disk) hfiles
  obtain ⟨hend, hperformed⟩ := @follow_spec settings { disk := disk } settings.place.directory
    hseparate.isApart.directory _ hfiled hadmits
  rw [outcome, after, hrun, hend]
  exact ⟨rfl, hperformed⟩

structure Foretells (disk : Disk) (dry wet : Except Interruption Nat × Session) : Prop where
  outcome : dry.1 = wet.1
  generated : dry.2.generated = wet.2.generated
  errors : dry.2.report.withSeverity .error = wet.2.report.withSeverity .error
  warnings : dry.2.report.withSeverity .warning = []
  disk : dry.2.disk = disk
  written : dry.2.written = []

theorem Performed.warnings {effects : List Effect} {after : Session} (hdry : settings.dryRun = true)
    (h : Performed settings effects { disk := disk } after) :
    after.report.withSeverity .warning = [] := by
  have hdiagnostics := h.dry hdry
  rw [Report.withSeverity, List.filter_eq_nil_iff]
  intro d hd
  rw [hdiagnostics] at hd
  obtain ⟨effect, -, heffect⟩ := List.mem_filterMap.mp hd
  cases effect with
  | script name file => simp [Effect.diagnostic?] at heffect
  | problem problem =>
    obtain rfl := Option.some.inj heffect
    simp

/-- As long as scripts are kept apart from what is read, a dry run foretells the real one. -/
theorem dryRun_foretells (hplace : settings.place.IsNullFree) (htree : disk.IsTree)
    (hseparate : disk.IsSeparate settings.place paths) :
    let start : Session := { disk := disk }
    Foretells disk ((generatePaths { settings with dryRun := true } paths).run.run start)
      ((generatePaths { settings with dryRun := false } paths).run.run start) := by
  intro start
  cases hfiles : disk.sourceFiles paths with
  | error error =>
    rw [generatePaths_run, generatePaths_run, hfiles]
    constructor <;> rfl
  | ok files =>
    obtain ⟨hdry, hnothing⟩ := @generatePaths_spec { settings with dryRun := true } disk paths
      hplace htree hseparate files hfiles
    obtain ⟨hwet, hall⟩ := @generatePaths_spec { settings with dryRun := false } disk paths
      hplace htree hseparate files hfiles
    -- What is planned does not depend on whether the run is dry.
    constructor
    · exact hdry.trans hwet.symm
    · exact hnothing.generated.trans hall.generated.symm
    · exact hnothing.errors.trans hall.errors.symm
    · exact hnothing.warnings rfl
    · exact hnothing.disk
    · exact hnothing.written

theorem dryRun_foretells_blocked :
    let disk : Disk := { entries := [(["a.swift".toList],
      .file (Utf8.encode "@GodotEnum enum A: Int \x7b case a \x7d".toList)),
      (["Enums".toList], .file [])] }
    let paths := [Path.ofText "a.swift".toList]
    let start : Session := { disk := disk }
    Foretells disk ((generatePaths { dryRun := true } paths).run.run start)
        ((generatePaths { } paths).run.run start) ∧
      (((generatePaths { } paths).after start).report.withSeverity .warning).length = 1 := by
  intro disk paths start
  have hplace : ({ } : Settings).place.IsNullFree := ⟨by decide, by decide⟩
  have htree : disk.IsTree := ⟨by decide, by decide⟩
  have hapart : ({ } : Settings).place.IsApart := ⟨by decide, by decide, by decide⟩
  have hseparate : disk.IsSeparate ({ } : Settings).place paths :=
    Disk.isSeparate_of_not_prefix hapart (by decide +kernel) (by decide) (by decide)
  exact ⟨dryRun_foretells hplace htree hseparate, by decide +kernel⟩

end Step

end EnumExport
