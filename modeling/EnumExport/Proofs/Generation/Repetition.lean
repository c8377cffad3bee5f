import EnumExport.Proofs.Disk.Reach
import EnumExport.Proofs.Disk.Searching
import EnumExport.Proofs.Generation.Following

namespace EnumExport

namespace Disk

variable {before after : Disk} {place : ScriptPlace} {paths : List Path}

theorem isDirectory_of_grows (htree : before.IsTree) (hseparate : before.IsSeparate place paths)
    (hgrows : Grows (before.IsScriptPlace place.directory) before after) {path : Path}
    (hpath : path ∈ paths) : after.isDirectory path = before.isDirectory path := by
  have hnames := hseparate.ownNames path hpath
  obtain ⟨entry, hprobe⟩ := exists_probe_of_pathExists (hseparate.isThere path hpath)
  have hfound := find_of_probe hprobe
  have hentry := entryAt_of_find hnames hfound
  have hkept : after.entryAt (before.placeOf path) = some entry := by
    cases entry with
    | directory => exact hgrows.directory _ hentry
    | file bytes =>
      refine hgrows.file _ bytes ?_ hentry
      rintro ⟨name, hplace, -⟩
      exact hseparate.outside path hpath bytes hfound [name] (List.cons_ne_nil name []) hplace
  unfold isDirectory probe
  rw [find_of_grows htree hgrows hnames hentry hkept]

theorem filesOf_of_grows (htree : before.IsTree) (hseparate : before.IsSeparate place paths)
    (hgrows : Grows (before.IsScriptPlace place.directory) before after)
    (hadds : AddsNone sourceEnding before after) {path : Path} (hpath : path ∈ paths)
    (hreach : after.IsInReach path) {files : List Path} (h : before.filesOf path = .ok files) :
    after.filesOf path = .ok files := by
  have hdirectory := isDirectory_of_grows htree hseparate hgrows hpath
  rcases filesOf_cases h with ⟨hother, rfl⟩ | ⟨hthere, start, hlocate, rfl⟩
  · exact filesOf_of_other (hdirectory.trans hother)
  · have hplace := locate_of_grows hgrows hlocate
    rw [hthere] at hdirectory
    rw [isInReach_iff_lookBelow hdirectory, ← eq_destination_of_locate hplace] at hreach
    rw [filesOf_of_lookBelow hdirectory hplace hreach, hadds.searchBelow_eq]

theorem sourceFiles_of_grows (htree : before.IsTree) (hseparate : before.IsSeparate place paths)
    (hgrows : Grows (before.IsScriptPlace place.directory) before after)
    (hadds : AddsNone sourceEnding before after) (hreach : ∀ path ∈ paths, after.IsInReach path)
    {files : List Path} (h : before.sourceFiles paths = .ok files) :
    after.sourceFiles paths = .ok files := by
  have hsame : ∀ path ∈ paths, after.filesOf path = before.filesOf path := by
    intro path hpath
    have hbefore := exists_sourceFiles_iff.mp ⟨files, h⟩ path hpath
    obtain ⟨found, hfound⟩ := exists_filesOf_iff.mpr hbefore
    rw [hfound, filesOf_of_grows htree hseparate hgrows hadds hpath (hreach path hpath) hfound]
  rw [← h, sourceFiles, sourceFiles, mapM_congr hsame]

end Disk

namespace Step

variable {settings : Settings} {disk : Disk} {paths : List Path}

structure Repeats {α : Type} (first again : Except Interruption α × Session) : Prop where
  outcome : again.1 = first.1
  disk : again.2.disk = first.2.disk
  generated : again.2.generated = first.2.generated
  written : again.2.written = first.2.written
  errors : again.2.report.withSeverity .error = first.2.report.withSeverity .error

theorem Repeats.map {α β : Type} {first again : Except Interruption α × Session}
    (h : Repeats first again) (f : α → β) :
    Repeats (first.1.map f, first.2) (again.1.map f, again.2) :=
  ⟨congrArg (Except.map f) h.outcome, h.disk, h.generated, h.written, h.errors⟩

theorem addsNone_of_isOwn (hplace : settings.place.IsApart)
    (hfree : ∀ name ∈ settings.place.directory.names, ¬ sourceEnding <:+ name)
    {effects : List Effect} (hown : ∀ effect ∈ effects, effect.IsOwn settings.place) :
    Disk.AddsNone sourceEnding disk (disk.storeAll (Effect.files settings effects)) := by
  apply Disk.addsNone_storeAll hplace.directory hfree
  intro file hfile
  obtain ⟨name, hmem⟩ := Effect.files_subset settings effects file hfile
  obtain ⟨hname, hpath⟩ := hown _ (Effect.mem_scripts_iff.mp hmem)
  refine ⟨name ++ settings.place.dottedExtension, ScriptPlace.append_ne_parentName hname _,
    hplace.not_isSuffix name, ?_⟩
  rw [hpath, ScriptPlace.pathOf_eq hplace.extension hname]

theorem follow_repeats {directory : Path} (hnames : Disk.parentName ∉ directory.names) {plan : Plan}
    (hfiled : IsFiled settings directory plan.begun)
    (h : (follow settings plan).outcome { disk := disk } = .ok ()) :
    let first := (follow settings plan).run.run { disk := disk }
    Repeats first ((follow settings plan).run.run { disk := first.2.disk }) := by
  intro first
  have hadmits := admits_of_follow hnames hfiled h
  obtain ⟨hend, hfirst⟩ := follow_spec hnames hfiled hadmits
  have hdisk : first.2.disk = disk.storeAll (Effect.files settings plan.begun) := hfirst.disk
  have hstill :
      ∀ file ∈ Effect.files settings plan.begun, first.2.disk.stores? file.path ≠ none := by
    intro file hfile
    rw [hdisk, Disk.stores?_storeAll hnames hfiled (hfiled file hfile)]
    exact hadmits file hfile
  obtain ⟨hstop, hagain⟩ := @follow_spec settings { disk := first.2.disk } _ hnames _ hfiled hstill
  constructor
  · exact hstop.trans hend.symm
  · refine hagain.disk.trans ?_
    rw [hdisk, Disk.storeAll_storeAll hnames hfiled]
  · exact hagain.generated.trans hfirst.generated.symm
  · refine hagain.written.trans (Eq.trans ?_ hfirst.written.symm)
    rw [hdisk, Disk.storable_storeAll hnames hfiled hfiled]
  · exact hagain.errors.trans hfirst.errors.symm

theorem generatePaths_out_of_reach (h : ¬ ∀ path ∈ paths, disk.IsInReach path) :
    ∃ error, (generatePaths settings paths).run.run { disk := disk } =
      (.error (.access error), { disk := disk }) := by
  rw [generatePaths_run]
  cases hfiles : disk.sourceFiles paths with
  | error error => exact ⟨error, rfl⟩
  | ok files => exact absurd (Disk.exists_sourceFiles_iff.mp ⟨files, hfiles⟩) h

theorem repeats_of_isInReach (htree : disk.IsTree)
    (hseparate : disk.IsSeparate settings.place paths)
    (hfree : ∀ name ∈ settings.place.directory.names, ¬ sourceEnding <:+ name) {count : Nat}
    (h : (generatePaths settings paths).outcome { disk := disk } = .ok count) :
    let first := (generatePaths settings paths).run.run { disk := disk }
    (∀ path ∈ paths, first.2.disk.IsInReach path) →
      Repeats first ((generatePaths settings paths).run.run { disk := first.2.disk }) := by
  intro first hreach
  cases hfiles : disk.sourceFiles paths with
  | error error =>
    rw [outcome, generatePaths_run, hfiles] at h
    simp at h
  | ok files =>
    have hsteady := Disk.isSteady_of_mem_sourceFiles htree hseparate hfiles
    have hdirectory := hseparate.isApart.directory
    have hfiled := isFiled_plan hseparate.isApart.extension disk files
    have hfirst : first = _ := @generatePaths_eq_follow settings disk { disk := disk } paths files
      hseparate.isApart htree hsteady (.refl disk) hfiles
    obtain ⟨_, hfollow, -⟩ := exists_of_map_ok ((congrArg Prod.fst hfirst).symm.trans h)
    have hgrows : Disk.Grows (disk.IsScriptPlace settings.place.directory) disk first.2.disk := by
      rw [hfirst]
      exact grows_follow (fun name file => isScriptPlace_of_plan hseparate.isApart) (.refl disk)
    have hadds : Disk.AddsNone sourceEnding disk first.2.disk := by
      rw [hfirst, (performed_of_follow hdirectory hfiled hfollow).2.disk]
      exact addsNone_of_isOwn hseparate.isApart hfree (isOwn_begun settings disk files)
    have hfound : first.2.disk.sourceFiles paths = .ok files :=
      Disk.sourceFiles_of_grows htree hseparate hgrows hadds hreach hfiles
    rw [@generatePaths_eq_follow settings disk { disk := first.2.disk } paths files
      hseparate.isApart htree hsteady hgrows hfound, hfirst]
    exact (follow_repeats hdirectory hfiled hfollow).map _

/-- A run that comes to its end, and whose scripts are kept apart from what it finds and reads,
changes nothing when it is repeated, unless a directory that it has made is out of reach of the
paths. Then the repetition stops before it does anything. -/
theorem generatePaths_repeats (htree : disk.IsTree)
    (hseparate : disk.IsSeparate settings.place paths)
    (hfree : ∀ name ∈ settings.place.directory.names, ¬ sourceEnding <:+ name) {count : Nat}
    (h : (generatePaths settings paths).outcome { disk := disk } = .ok count) :
    let first := (generatePaths settings paths).run.run { disk := disk }
    let again := (generatePaths settings paths).run.run { disk := first.2.disk }
    ((∀ path ∈ paths, first.2.disk.IsInReach path) → Repeats first again) ∧
      ((¬ ∀ path ∈ paths, first.2.disk.IsInReach path) →
        ∃ error, again = (.error (.access error), { disk := first.2.disk })) :=
  ⟨repeats_of_isInReach htree hseparate hfree h, generatePaths_out_of_reach⟩

theorem generatePaths_repeats_replaced :
    let disk : Disk := { entries := [
      (["a.swift".toList], .file (Utf8.encode "@GodotEnum enum A: Int \x7b case a \x7d".toList)),
      (["b.swift".toList], .file (Utf8.encode "@GodotEnum enum A: Int \x7b case b \x7d".toList))] }
    let paths := ["a.swift", "b.swift"].map (Path.ofText ·.toList)
    let first := (generatePaths { } paths).run.run { disk := disk }
    first.1 = .ok 2 ∧
      Repeats first ((generatePaths { } paths).run.run { disk := first.2.disk }) := by
  intro disk paths first
  have htree : disk.IsTree := ⟨by decide, by decide⟩
  have hapart : ({ } : Settings).place.IsApart := ⟨by decide, by decide, by decide⟩
  have hseparate : disk.IsSeparate ({ } : Settings).place paths :=
    Disk.isSeparate_of_not_prefix hapart (by decide +kernel) (by decide) (by decide)
  have houtcome : (generatePaths { } paths).outcome { disk := disk } = .ok 2 := by decide +kernel
  have hfiles : ∀ path ∈ paths, first.2.disk.isDirectory path = .ok false := by decide +kernel
  obtain ⟨hrepeats, -⟩ := generatePaths_repeats htree hseparate (by decide) houtcome
  exact ⟨houtcome, hrepeats fun path hpath => Disk.isInReach_of_not_directory (hfiles path hpath)⟩

theorem generatePaths_repeats_out_of_reach :
    let home := List.replicate 16 (List.replicate 63 '𝄞') ++ [List.replicate 31 'd']
    let source := Utf8.encode "@GodotEnum enum A: Int \x7b case a \x7d".toList
    let disk : Disk := {
      entries := (home.inits.tail.map fun place => (place, .directory)) ++
        [(home ++ ["a.swift".toList], .file source)]
      home := home }
    let settings : Settings := { place := { directory := Path.ofText "EnumsEnumsEnums".toList } }
    let paths : List Path := [⟨.root, home⟩]
    let first := (generatePaths settings paths).run.run { disk := disk }
    disk.IsTree ∧ disk.IsSeparate settings.place paths ∧
      (∀ name ∈ settings.place.directory.names, ¬ sourceEnding <:+ name) ∧ first.1 = .ok 1 ∧
        ¬ Repeats first ((generatePaths settings paths).run.run { disk := first.2.disk }) := by
  intro home source disk settings paths first
  have htree : disk.IsTree := ⟨by decide +kernel, by decide +kernel⟩
  have hapart : settings.place.IsApart := ⟨by decide, by decide, by decide⟩
  have hseparate : disk.IsSeparate settings.place paths :=
    Disk.isSeparate_of_not_prefix hapart (by decide +kernel) (by decide +kernel) (by decide +kernel)
  have hfirst : first.1 = .ok 1 := by decide +kernel
  have hagain : ((generatePaths settings paths).run.run { disk := first.2.disk }).1 ≠ .ok 1 := by
    decide +kernel
  exact ⟨htree, hseparate, by decide, hfirst, fun h => hagain (h.outcome.trans hfirst)⟩

end Step

end EnumExport
