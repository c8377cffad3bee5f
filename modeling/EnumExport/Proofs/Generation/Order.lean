import EnumExport.Proofs.Generation.Following
import EnumExport.Proofs.Reading.Declarations

namespace EnumExport

namespace Disk

def enums (disk : Disk) (marker : List Char) (path : Path) : List EnumDeclaration :=
  match disk.readDeclarations marker path with
  | .ok declarations => declarations.filterMap Declaration.asEnum?
  | .error _ => []

structure AreOutside (disk : Disk) (place : ScriptPlace) (paths : List Path) : Prop where
  directory : parentName ∉ place.directory.names
  extension : '/' ∉ place.extension
  isFile : ∀ path ∈ paths, ∃ bytes, disk.find path = .ok (.file bytes)
  ownNames : ∀ path ∈ paths, parentName ∉ path.names
  outside : ∀ path ∈ paths, ∀ names ≠ [],
    disk.placeOf path ≠ disk.placeOf place.directory ++ names

structure HasOwnNames (disk : Disk) (marker : List Char) (paths : List Path) : Prop where
  within : ∀ path ∈ paths, ((disk.enums marker path).map (·.name)).Nodup
  between : ∀ path ∈ paths, ∀ other ∈ paths, disk.placeOf path ≠ disk.placeOf other →
    ∀ enum ∈ disk.enums marker path, ∀ second ∈ disk.enums marker other, enum.name ≠ second.name

variable {disk : Disk} {place : ScriptPlace} {marker : List Char} {paths files : List Path}

theorem filesOf_of_file {path : Path} {bytes : List UInt8}
    (h : disk.find path = .ok (.file bytes)) : disk.filesOf path = .ok [path] := by
  apply filesOf_of_other
  unfold isDirectory probe
  split
  · rfl
  · rw [h]
    rfl

theorem sourceFiles_of_files (h : ∀ path ∈ paths, ∃ bytes, disk.find path = .ok (.file bytes)) :
    disk.sourceFiles paths = .ok paths := by
  have hall : paths.mapM disk.filesOf = .ok (paths.map fun path => [path]) := by
    rw [mapM_eq_ok_iff, List.forall₂_map_right_iff, List.forall₂_same]
    intro path hpath
    obtain ⟨bytes, hbytes⟩ := h path hpath
    exact filesOf_of_file hbytes
  rw [sourceFiles, hall]
  exact congrArg Except.ok (List.flatMap_singleton' paths)

theorem readDeclarations_eq_ok_iff {path : Path} {declarations : List Declaration} :
    disk.readDeclarations marker path = .ok declarations ↔
      ∃ bytes text, disk.read path = .ok bytes ∧ Utf8.decode bytes = .ok text ∧
        readSource marker (some path.text) (unifyLineEnds text) = .ok declarations := by
  unfold readDeclarations
  cases disk.read path with
  | error error => simp
  | ok bytes =>
    cases hdecode : Utf8.decode bytes with
    | error error => simp [hdecode]
    | ok text =>
      cases hsource : readSource marker (some path.text) (unifyLineEnds text) <;>
        simp [hdecode, hsource]

theorem read_eq_of_placeOf {path other : Path} {bytes again : List UInt8}
    (hnames : parentName ∉ path.names) (hother : parentName ∉ other.names)
    (hplace : disk.placeOf path = disk.placeOf other) (h : disk.read path = .ok bytes)
    (hagain : disk.read other = .ok again) : again = bytes := by
  obtain ⟨-, start, hlocate, hentry⟩ := read_eq_ok_iff.mp h
  obtain ⟨-, start', hlocate', hentry'⟩ := read_eq_ok_iff.mp hagain
  obtain rfl := eq_placeOf_of_locate hnames hlocate
  obtain rfl := eq_placeOf_of_locate hother hlocate'
  rw [← hplace, hentry] at hentry'
  exact (Entry.file.inj (Option.some.inj hentry')).symm

theorem enums_eq_of_placeOf {path other : Path} (hnames : parentName ∉ path.names)
    (hother : parentName ∉ other.names) (hplace : disk.placeOf path = disk.placeOf other)
    {declarations again : List Declaration}
    (h : disk.readDeclarations marker path = .ok declarations)
    (hagain : disk.readDeclarations marker other = .ok again) :
    disk.enums marker other = disk.enums marker path := by
  obtain ⟨bytes, text, hread, hdecode, hsource⟩ := readDeclarations_eq_ok_iff.mp h
  obtain ⟨bytes', text', hread', hdecode', hsource'⟩ := readDeclarations_eq_ok_iff.mp hagain
  obtain rfl := read_eq_of_placeOf hnames hother hplace hread hread'
  obtain rfl := Except.ok.inj (hdecode.symm.trans hdecode')
  have hmap := congrArg (List.filterMap id) (map_asEnum?_of_readSource hsource hsource')
  rw [List.filterMap_map, List.filterMap_map] at hmap
  rw [enums, enums, h, hagain]
  exact hmap

theorem exists_readDeclarations_of_mem_enums {path : Path} {enum : EnumDeclaration}
    (h : enum ∈ disk.enums marker path) :
    ∃ declarations, disk.readDeclarations marker path = .ok declarations := by
  unfold enums at h
  split at h
  · exact ⟨_, ‹_›⟩
  · simp at h

theorem HasOwnNames.eq_of_name_eq (hown : disk.HasOwnNames marker paths)
    (hnames : ∀ path ∈ paths, parentName ∉ path.names) {path other : Path} (hpath : path ∈ paths)
    (hother : other ∈ paths) {enum second : EnumDeclaration} (h : enum ∈ disk.enums marker path)
    (hsecond : second ∈ disk.enums marker other) (hname : enum.name = second.name) :
    enum = second := by
  by_cases hplace : disk.placeOf path = disk.placeOf other
  · obtain ⟨declarations, hread⟩ := exists_readDeclarations_of_mem_enums h
    obtain ⟨again, hagain⟩ := exists_readDeclarations_of_mem_enums hsecond
    rw [enums_eq_of_placeOf (hnames path hpath) (hnames other hother) hplace hread hagain]
      at hsecond
    exact List.inj_on_of_nodup_map (hown.within path hpath) h hsecond hname
  · exact absurd hname (hown.between path hpath other hother hplace enum h second hsecond)

theorem AreOutside.of_perm {others : List Path} (h : disk.AreOutside place paths)
    (hperm : paths.Perm others) : disk.AreOutside place others where
  directory := h.directory
  extension := h.extension
  isFile := fun path hpath => h.isFile path (hperm.mem_iff.mpr hpath)
  ownNames := fun path hpath => h.ownNames path (hperm.mem_iff.mpr hpath)
  outside := fun path hpath => h.outside path (hperm.mem_iff.mpr hpath)

end Disk

namespace Step

variable {settings : Settings} {disk : Disk} {paths others : List Path}

theorem exists_enum_of_plan {files : List Path} {name : List Char} {file : ScriptFile}
    (h : .ok (.script name file) ∈ disk.plan settings files) :
    ∃ path ∈ files, ∃ enum ∈ disk.enums settings.marker path,
      enum.planned settings.place = .ok (.script name file) := by
  obtain ⟨path, hpath, hmem⟩ := List.mem_flatMap.mp h
  obtain ⟨declarations, hread, declaration, hdeclaration, enum, henum, hplanned⟩ :=
    exists_enum_of_readPlan hmem
  refine ⟨path, hpath, enum, ?_, hplanned⟩
  rw [Disk.enums, hread]
  exact List.mem_filterMap.mpr ⟨declaration, hdeclaration, henum⟩

theorem eq_of_mem_scripts (houtside : disk.AreOutside settings.place paths)
    (hown : disk.HasOwnNames settings.marker paths) :
    ∀ x ∈ Effect.scripts (disk.plan settings paths).begun,
      ∀ y ∈ Effect.scripts (disk.plan settings paths).begun, x.1 = y.1 → x = y := by
  rintro ⟨name, file⟩ hx ⟨other, second⟩ hy rfl
  obtain ⟨path, hpath, enum, henum, hplanned⟩ :=
    exists_enum_of_plan (Plan.mem_of_mem_begun (Effect.mem_scripts_iff.mp hx))
  obtain ⟨path', hpath', enum', henum', hplanned'⟩ :=
    exists_enum_of_plan (Plan.mem_of_mem_begun (Effect.mem_scripts_iff.mp hy))
  have hname : enum.name = enum'.name :=
    (name_of_planned hplanned).symm.trans (name_of_planned hplanned')
  obtain rfl := hown.eq_of_name_eq houtside.ownNames hpath hpath' henum henum' hname
  obtain ⟨-, rfl⟩ := Effect.script.inj (Except.ok.inj (hplanned.symm.trans hplanned'))
  rfl

theorem eq_of_mem_files {place : ScriptPlace} (hextension : '/' ∉ place.extension)
    {effects : List Effect} (hown : ∀ effect ∈ effects, effect.IsOwn place)
    (hscripts : ∀ x ∈ Effect.scripts effects, ∀ y ∈ Effect.scripts effects, x.1 = y.1 → x = y) :
    ∀ file ∈ Effect.files settings effects, ∀ second ∈ Effect.files settings effects,
      file.path = second.path → file = second := by
  intro file hfile second hsecond hpath
  obtain ⟨name, hmem⟩ := Effect.files_subset settings effects file hfile
  obtain ⟨other, hmem'⟩ := Effect.files_subset settings effects second hsecond
  obtain ⟨hname, hplace⟩ := hown _ (Effect.mem_scripts_iff.mp hmem)
  obtain ⟨hother, hplace'⟩ := hown _ (Effect.mem_scripts_iff.mp hmem')
  rw [hplace, hplace'] at hpath
  obtain rfl := ScriptPlace.pathOf_inj hextension hname hother hpath
  exact (Prod.mk.inj (hscripts _ hmem _ hmem' rfl)).2

theorem generatePaths_eq_follow_of_outside (htree : disk.IsTree)
    (houtside : disk.AreOutside settings.place paths) :
    (generatePaths settings paths).run.run { disk := disk } =
      (((follow settings (disk.plan settings paths)).outcome { disk := disk }).map
        (fun _ => disk.count settings paths),
        (follow settings (disk.plan settings paths)).after { disk := disk }) := by
  let written : Place → Prop := fun place =>
    ∃ name, place = disk.placeOf settings.place.directory ++ [name]
  have hrun := generatePaths_run settings paths { disk := disk }
  simp only [Disk.sourceFiles_of_files houtside.isFile] at hrun
  rw [hrun]
  apply @generateFiles_eq_follow settings { disk := disk } disk written paths
  · intro path hpath after hgrows
    obtain ⟨bytes, hfile⟩ := houtside.isFile path hpath
    have hnames := houtside.ownNames path hpath
    apply Disk.readDeclarations_of_grows htree hgrows hnames (Disk.entryAt_of_find hnames hfile)
    rintro ⟨name, hplace⟩
    exact houtside.outside path hpath [name] (List.cons_ne_nil name []) hplace
  · intro name file hmem
    obtain ⟨stem, hstem, hpath⟩ := isIn_of_isOwn houtside.extension (isOwn_plan hmem)
    refine ⟨stem, ?_⟩
    rw [hpath, Disk.destination_below hstem, Disk.destination_eq_placeOf houtside.directory]
  · exact .refl disk

structure EndsAlike {α : Type} (first second : Except Interruption α × Session) : Prop where
  outcome : second.1 = first.1
  home : second.2.disk.home = first.2.disk.home
  sizeLimit : second.2.disk.sizeLimit = first.2.disk.sizeLimit
  entryAt : ∀ place, second.2.disk.entryAt place = first.2.disk.entryAt place
  generated : first.2.generated.Perm second.2.generated
  written : first.2.written.Perm second.2.written
  errors : (first.2.report.withSeverity .error).Perm (second.2.report.withSeverity .error)

theorem EndsAlike.map {α β : Type} {first second : Except Interruption α × Session}
    (h : EndsAlike first second) (f : α → β) :
    EndsAlike (first.1.map f, first.2) (second.1.map f, second.2) :=
  { h with outcome := congrArg (Except.map f) h.outcome }

theorem files_perm {effects again : List Effect} (hperm : effects.Perm again) :
    (Effect.files settings effects).Perm (Effect.files settings again) := by
  unfold Effect.files
  split
  · exact .nil
  · exact (hperm.filterMap _).map _

theorem follow_endsAlike {directory : Path} (hnames : Disk.parentName ∉ directory.names)
    {plan other : Plan} (hperm : plan.Perm other) (hfiled : IsFiled settings directory plan.begun)
    (hscripts : ∀ x ∈ Effect.scripts plan.begun, ∀ y ∈ Effect.scripts plan.begun,
      x.1 = y.1 → x = y)
    (hfiles : ∀ file ∈ Effect.files settings plan.begun,
      ∀ second ∈ Effect.files settings plan.begun, file.path = second.path → file = second)
    (h : (follow settings plan).outcome { disk := disk } = .ok ()) :
    EndsAlike ((follow settings plan).run.run { disk := disk })
      ((follow settings other).run.run { disk := disk }) := by
  obtain ⟨hend, hfirst⟩ := performed_of_follow hnames hfiled h
  obtain ⟨hother, hbegun⟩ := Plan.begun_perm hperm hend
  have hstored := @files_perm settings _ _ hbegun
  have hfiled' : IsFiled settings directory other.begun :=
    fun file hfile => hfiled file (hstored.mem_iff.mpr hfile)
  have hadmits : ∀ file ∈ Effect.files settings other.begun, disk.stores? file.path ≠ none :=
    fun file hfile => admits_of_follow hnames hfiled h file (hstored.mem_iff.mpr hfile)
  obtain ⟨hstop, hsecond⟩ := @follow_spec settings { disk := disk } _ hnames _ hfiled' hadmits
  unfold after at hfirst hsecond
  constructor
  · exact (hstop.trans hother).trans h.symm
  · rw [hfirst.disk, hsecond.disk, (Disk.storeAll_frame disk _).1, (Disk.storeAll_frame disk _).1]
  · rw [hfirst.disk, hsecond.disk, (Disk.storeAll_frame disk _).2, (Disk.storeAll_frame disk _).2]
  · intro place
    rw [hfirst.disk, hsecond.disk]
    exact Disk.entryAt_storeAll_of_perm hnames hfiled hstored hfiles place
  · have hgenerated := Keyed.setAll_perm (hbegun.filterMap Effect.script?) hscripts
      (show Keyed.OneEach ([] : Keyed (List Char) ScriptFile) from List.nodup_nil)
    rw [hfirst.generated, hsecond.generated]
    exact hgenerated
  · rw [hfirst.written, hsecond.written]
    exact ((hstored.filter _).filter _).map _
  · rw [hfirst.errors, hsecond.errors]
    exact hbegun.filterMap _

/-- As long as different enums have different names, the order in which their files are given does
not matter to a run that comes to its end. -/
theorem generatePaths_endsAlike (htree : disk.IsTree)
    (houtside : disk.AreOutside settings.place paths)
    (hown : disk.HasOwnNames settings.marker paths) (hperm : paths.Perm others) {count : Nat}
    (h : (generatePaths settings paths).outcome { disk := disk } = .ok count) :
    EndsAlike ((generatePaths settings paths).run.run { disk := disk })
      ((generatePaths settings others).run.run { disk := disk }) := by
  have hplan : (disk.plan settings paths).Perm (disk.plan settings others) :=
    hperm.flatMap_right _
  have hcount : disk.count settings others = disk.count settings paths :=
    (hperm.map _).sum_nat.symm
  have hfiled := isFiled_plan houtside.extension disk paths
  have hscripts := eq_of_mem_scripts houtside hown
  have hfiles := @eq_of_mem_files settings _ houtside.extension _ (isOwn_begun settings disk paths)
    hscripts
  have hfirst := generatePaths_eq_follow_of_outside htree houtside
  have hsecond := generatePaths_eq_follow_of_outside htree (houtside.of_perm hperm)
  obtain ⟨_, hfollow, -⟩ := exists_of_map_ok ((congrArg Prod.fst hfirst).symm.trans h)
  rw [hfirst, hsecond, hcount]
  exact (follow_endsAlike houtside.directory hplan hfiled hscripts hfiles hfollow).map _

theorem generatePaths_endsAlike_reversed :
    let disk : Disk := { entries := [
      (["a.swift".toList], .file (Utf8.encode "@GodotEnum enum A: Int \x7b case a \x7d".toList)),
      (["b.swift".toList], .file (Utf8.encode
        "@GodotEnum struct S \x7b \x7d @GodotEnum enum B: Int \x7b case b \x7d".toList))] }
    -- The first file is given twice, under two paths to it.
    let paths := ["a.swift", "b.swift", "/a.swift"].map (Path.ofText ·.toList)
    EndsAlike ((generatePaths { } paths).run.run { disk := disk })
      ((generatePaths { } paths.reverse).run.run { disk := disk }) := by
  intro disk paths
  have htree : disk.IsTree := ⟨by decide, by decide⟩
  have hfile : ∀ path ∈ paths, ∃ bytes, disk.find path = .ok (.file bytes) := by
    have hfound : ∀ path ∈ paths,
        (disk.find path).toOption.any (· != .directory) = true := by decide +kernel
    intro path hpath
    have hentry := hfound path hpath
    revert hentry
    rcases disk.find path with fault | ⟨bytes⟩ | _
    · simp [Except.toOption]
    · exact fun _ => ⟨bytes, rfl⟩
    · simp [Except.toOption]
  have hprefix : ∀ path ∈ paths,
      ¬ disk.placeOf ({ } : Settings).place.directory <+: disk.placeOf path := by decide
  have houtside : disk.AreOutside ({ } : Settings).place paths :=
    ⟨by decide, by decide, hfile, by decide,
      fun path hpath names _ hplace => hprefix path hpath ⟨names, hplace.symm⟩⟩
  have hown : disk.HasOwnNames ({ } : Settings).marker paths :=
    ⟨by decide +kernel, by decide +kernel⟩
  have houtcome : (generatePaths { } paths).outcome { disk := disk } = .ok 4 := by decide +kernel
  exact generatePaths_endsAlike htree houtside hown (List.reverse_perm paths).symm houtcome

end Step

end EnumExport
