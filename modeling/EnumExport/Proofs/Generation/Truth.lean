import EnumExport.Proofs.Generation.Plans

namespace EnumExport

namespace Step

/-- Where a script has been written, its file holds all of it or, with a warning, as much as a file
on the disk can hold. -/
inductive Holds (session : Session) (file : ScriptFile) : Prop
  | whole : session.disk.read file.path = .ok file.bytes → Holds session file
  | cut {limit : Nat} {error : FileError} : session.disk.sizeLimit = some limit →
      limit < file.bytes.length → session.disk.read file.path = .ok (file.bytes.take limit) →
      unwritten file.path error ∈ session.report.diagnostics → Holds session file

structure IsTruthful (settings : Settings) (initial : Disk) (session : Session) : Prop where
  oneEach : Keyed.OneEach session.generated
  spelled : ∀ entry ∈ session.generated, IsSpelled isDotted entry.1
  path : ∀ entry ∈ session.generated,
    entry.2.path = settings.place.directory.below [entry.1 ++ settings.place.dottedExtension]
  written : ∀ path ∈ session.written, ∃ entry ∈ session.generated, entry.2.path = path
  contents : ∀ entry ∈ session.generated, entry.2.path ∈ session.written → Holds session entry.2
  sizeLimit : session.disk.sizeLimit = initial.sizeLimit
  dry : settings.dryRun = true → session.written = [] ∧ session.disk = initial
  warned : settings.dryRun = false → ∀ entry ∈ session.generated,
    entry.2.path ∉ session.written →
      ∃ error, unwritten entry.2.path error ∈ session.report.diagnostics

variable {settings : Settings} {initial : Disk} {session after : Session} {name : List Char}
  {file : ScriptFile}

theorem isTruthful_fresh (settings : Settings) (disk : Disk) (report : Report) :
    IsTruthful settings disk { disk := disk, report := report } where
  oneEach := List.nodup_nil
  spelled := by simp
  path := by simp
  written := by simp
  contents := by simp
  sizeLimit := rfl
  dry := fun _ => ⟨rfl, rfl⟩
  warned := by simp

theorem Holds.exists_read (h : Holds session file) :
    ∃ bytes, session.disk.read file.path = .ok bytes := by
  cases h with
  | whole hread => exact ⟨_, hread⟩
  | cut _ _ hread _ => exact ⟨_, hread⟩

theorem Holds.mono (h : Holds session file)
    (hread : ∀ bytes, session.disk.read file.path = .ok bytes →
      after.disk.read file.path = .ok bytes)
    (hlimit : after.disk.sizeLimit = session.disk.sizeLimit)
    (hreport : ∀ d ∈ session.report.diagnostics, d ∈ after.report.diagnostics) :
    Holds after file := by
  cases h with
  | whole hbytes => exact .whole (hread _ hbytes)
  | cut hsize hlong hbytes hwarning =>
    exact .cut (hlimit.trans hsize) hlong (hread _ hbytes) (hreport _ hwarning)

theorem IsTruthful.of_records {d : Diagnostic} (h : IsTruthful settings initial session)
    (hrecords : Records d session after) : IsTruthful settings initial after := by
  obtain ⟨console, rfl⟩ := hrecords
  refine { h with contents := ?_, warned := ?_ }
  · intro entry hentry hpath
    exact (h.contents entry hentry hpath).mono (fun _ => id) rfl fun _ => List.mem_append_left _
  · intro hwet entry hentry hpath
    obtain ⟨error, hmem⟩ := h.warned hwet entry hentry hpath
    exact ⟨error, List.mem_append_left _ hmem⟩

theorem IsTruthful.eq_of_path (h : IsTruthful settings initial session)
    {entry : List Char × ScriptFile} (hentry : entry ∈ session.generated)
    (hpath : entry.2.path =
      settings.place.directory.below [name ++ settings.place.dottedExtension]) :
    entry.1 = name := by
  rw [h.path entry hentry] at hpath
  have hlast := List.append_cancel_left (congrArg Path.names hpath)
  exact List.append_cancel_right (List.cons.inj hlast).1

theorem IsTruthful.of_kept (h : IsTruthful settings initial session)
    (hname : IsSpelled isDotted name)
    (hpath : file.path = settings.place.directory.below [name ++ settings.place.dottedExtension])
    (hgenerated : after.generated = Keyed.set name file session.generated)
    (hwritten : ∀ path, path ∈ after.written → path ∈ session.written ∨ path = file.path)
    (hstill : ∀ path ∈ session.written, path ∈ after.written)
    (hcontents : file.path ∈ after.written → Holds after file)
    (hlimit : after.disk.sizeLimit = session.disk.sizeLimit)
    (hothers : ∀ entry ∈ session.generated, entry.1 ≠ name → ∀ bytes,
      session.disk.read entry.2.path = .ok bytes → after.disk.read entry.2.path = .ok bytes)
    (hdry : settings.dryRun = true → after.written = [] ∧ after.disk = initial)
    (hwarned : settings.dryRun = false → file.path ∉ after.written →
      ∃ error, unwritten file.path error ∈ after.report.diagnostics)
    (hreport : ∀ d ∈ session.report.diagnostics, d ∈ after.report.diagnostics) :
    IsTruthful settings initial after := by
  have hmem {entry : List Char × ScriptFile} : entry ∈ after.generated ↔
      entry = (name, file) ∨ entry ∈ session.generated ∧ entry.1 ≠ name := by
    rw [hgenerated]
    exact h.oneEach.mem_set_iff
  constructor
  case oneEach =>
    rw [hgenerated]
    exact h.oneEach.set name file
  case spelled =>
    intro entry hentry
    rcases hmem.mp hentry with rfl | ⟨hold, -⟩
    · exact hname
    · exact h.spelled entry hold
  case path =>
    intro entry hentry
    rcases hmem.mp hentry with rfl | ⟨hold, -⟩
    · exact hpath
    · exact h.path entry hold
  case written =>
    intro path hafter
    by_cases hfile : path = file.path
    · exact ⟨(name, file), hmem.mpr (Or.inl rfl), hfile.symm⟩
    · obtain ⟨entry, hentry, rfl⟩ := h.written path ((hwritten path hafter).resolve_right hfile)
      refine ⟨entry, hmem.mpr (Or.inr ⟨hentry, ?_⟩), rfl⟩
      rintro rfl
      exact hfile ((h.path entry hentry).trans hpath.symm)
  case contents =>
    intro entry hentry hafter
    rcases hmem.mp hentry with rfl | ⟨hold, hne⟩
    · exact hcontents hafter
    · have hbefore : entry.2.path ∈ session.written := by
        refine (hwritten _ hafter).resolve_right fun hfile => hne ?_
        exact h.eq_of_path hold (hfile.trans hpath)
      exact (h.contents entry hold hbefore).mono (hothers entry hold hne) hlimit hreport
  case sizeLimit => exact hlimit.trans h.sizeLimit
  case dry => exact hdry
  case warned =>
    intro hwet entry hentry hafter
    rcases hmem.mp hentry with rfl | ⟨hold, -⟩
    · exact hwarned hwet hafter
    · obtain ⟨error, hd⟩ := h.warned hwet entry hold fun hbefore => hafter (hstill _ hbefore)
      exact ⟨error, hreport _ hd⟩

theorem IsTruthful.read_of_store (h : IsTruthful settings initial session)
    (hname : IsSpelled isDotted name)
    (hpath : file.path = settings.place.directory.below [name ++ settings.place.dottedExtension])
    {outcome : Except AccessError Unit} {disk : Disk}
    (hstore : session.disk.store file.path file.bytes = (outcome, disk)) :
    ∀ entry ∈ session.generated, entry.1 ≠ name → ∀ bytes,
      session.disk.read entry.2.path = .ok bytes → disk.read entry.2.path = .ok bytes := by
  intro entry hentry hne bytes hread
  obtain rfl : (session.disk.store _ _).2 = disk := congrArg Prod.snd hstore
  rw [h.path entry hentry] at hread ⊢
  rw [hpath]
  apply Disk.read_store_of_ne (ScriptPlace.append_ne_parentName hname _)
    (ScriptPlace.append_ne_parentName (h.spelled entry hentry) _) _ hread
  exact fun hsame => hne (List.append_cancel_right hsame)

theorem IsTruthful.holds_of_written (h : IsTruthful settings initial session)
    (hname : IsSpelled isDotted name)
    (hpath : file.path = settings.place.directory.below [name ++ settings.place.dottedExtension])
    (hwritten : file.path ∈ session.written) {error : FileError} {disk : Disk}
    (hstore : session.disk.store file.path file.bytes = (.error (.file error), disk))
    (hdisk : after.disk = disk)
    (hwarned : unwritten file.path error ∈ after.report.diagnostics) : Holds after file := by
  obtain ⟨entry, hentry, hsame⟩ := h.written file.path hwritten
  obtain ⟨old, hold⟩ := (h.contents entry hentry (hsame ▸ hwritten)).exists_read
  rw [hsame, hpath] at hold
  have hstores := Disk.stores?_of_read (ScriptPlace.append_ne_parentName hname _) hold
  rw [← hpath] at hstores
  obtain ⟨limit, hlimit, hlong, hread⟩ := Disk.read_of_store_error hstores hstore
  subst hdisk
  exact .cut ((Disk.sizeLimit_of_store hstore).trans hlimit) hlong hread hwarned

theorem IsTruthful.of_generates (hextension : '/' ∉ settings.place.extension)
    (h : IsTruthful settings initial session)
    (hown : (Effect.script name file).IsOwn settings.place)
    (hgenerates : Generates settings name file session after) :
    IsTruthful settings initial after := by
  obtain ⟨hname, hplace⟩ := hown
  have hpath := hplace.trans (ScriptPlace.pathOf_eq hextension hname)
  cases hgenerates with
  | dry hdry =>
    have hnone (path : Path) : path ∉ session.written := by simp [(h.dry hdry).1]
    apply h.of_kept hname hpath
    case hgenerated => rfl
    case hwritten => exact fun _ => Or.inl
    case hstill => exact fun _ hmem => hmem
    case hcontents => exact fun hmem => absurd hmem (hnone _)
    case hlimit => rfl
    case hothers => exact fun _ _ _ _ hread => hread
    case hdry => exact h.dry
    case hwarned => simp [hdry]
    case hreport => exact fun _ hd => hd
  | written hwet hstore hread =>
    apply h.of_kept hname hpath
    case hgenerated => rfl
    case hwritten => simp
    case hstill => exact fun _ => List.mem_append_left _
    case hcontents => exact fun _ => .whole hread
    case hlimit => exact Disk.sizeLimit_of_store hstore
    case hothers => exact h.read_of_store hname hpath hstore
    case hdry => simp [hwet]
    case hwarned =>
      intro _ hmem
      exact absurd (List.mem_append_right _ (List.mem_singleton.mpr rfl)) hmem
    case hreport => exact fun _ hd => hd
  | failed hwet hstore hrecords =>
    obtain ⟨console, rfl⟩ := hrecords
    apply h.of_kept hname hpath
    case hgenerated => rfl
    case hwritten => exact fun _ => Or.inl
    case hstill => exact fun _ hmem => hmem
    case hcontents =>
      intro hmem
      apply h.holds_of_written hname hpath hmem hstore rfl
      exact List.mem_append_right _ (List.mem_singleton.mpr rfl)
    case hlimit => exact Disk.sizeLimit_of_store hstore
    case hothers => exact h.read_of_store hname hpath hstore
    case hdry => simp [hwet]
    case hwarned => exact fun _ _ => ⟨_, List.mem_append_right _ (List.mem_singleton.mpr rfl)⟩
    case hreport => exact fun _ => List.mem_append_left _

section

variable (hextension : '/' ∉ settings.place.extension) (hplace : settings.place.IsNullFree)

include hextension hplace

theorem keeps_perform {effect : Effect} (hown : effect.IsOwn settings.place) :
    Keeps (IsTruthful settings initial) (perform settings effect) := by
  intro session h
  cases effect with
  | problem problem => exact h.of_records (report_spec session (d := ⟨.error, problem⟩) trivial).2
  | script name file =>
    have hadmits : Admits settings session.disk file :=
      fun _ => Disk.stores?_ne_none (hasNull_of_isOwn hplace hown)
    exact h.of_generates hextension hown (keep_spec name hadmits).2

theorem keeps_plan {plan : Plan}
    (hown : ∀ effect, .ok effect ∈ plan → effect.IsOwn settings.place) :
    Keeps (IsTruthful settings initial) (follow settings plan) :=
  keeps_follow fun effect hmem => keeps_perform hextension hplace (hown effect hmem)

theorem keeps_expand {declaration : Declaration}
    (hname : ∀ enum ∈ declaration.asEnum?, IsSpelled isDotted enum.name) :
    Keeps (IsTruthful settings initial) (expand settings declaration) := by
  rw [expand_eq_follow]
  apply keeps_plan hextension hplace
  intro effect hmem
  exact isOwn_planned hname (List.mem_singleton.mp hmem).symm

theorem keeps_generateEnum {enum : EnumDeclaration} (hname : IsSpelled isDotted enum.name) :
    Keeps (IsTruthful settings initial) (generateEnum settings enum) := by
  intro session h
  cases hfile : settings.place.scriptFile enum.name (resolve 0 enum.cases) with
  | error error => rwa [(generateEnum_error session hfile).2]
  | ok file =>
    have hown : (Effect.script enum.name file).IsOwn settings.place :=
      ⟨hname, ScriptPlace.path_of_scriptFile hfile⟩
    rw [generateEnum_eq hfile]
    exact (keeps_perform hextension hplace hown).bind (fun _ => keeps_pure file) session h

theorem keeps_generateSource (file : Option (List Char)) (source : List Char) :
    Keeps (IsTruthful settings initial) (generateSource settings file source) := by
  rw [generateSource]
  split
  · exact fun _ h => h
  · exact fun _ h => h
  · rename_i declarations hsource
    rw [expandAll_eq_follow]
    refine (keeps_plan hextension hplace fun effect hmem => ?_).bind fun _ => keeps_pure _
    obtain ⟨declaration, hdeclaration, hplanned⟩ := List.mem_map.mp hmem
    have hname := isSpelled_of_readSource hsource declaration hdeclaration
    exact isOwn_planned (isSpelled_asEnum? hname) hplanned

theorem keeps_generateFiles (files : List Path) :
    Keeps (IsTruthful settings initial) (generateFiles settings files) := by
  induction files with
  | nil => exact keeps_pure 0
  | cons path files ih =>
    have hfile : Keeps (IsTruthful settings initial) (generateFile settings path) := by
      intro session h
      rw [after, generateFile_run, treat_eq_follow]
      refine (keeps_plan hextension hplace fun effect hmem => ?_).bind (fun _ => keeps_pure _) _ h
      refine isOwn_readPlan (fun declarations hread => ?_) hmem
      exact Disk.isSpelled_of_readDeclarations hread
    exact hfile.bind fun count => ih.bind fun more => keeps_pure (count + more)

theorem keeps_generatePaths (paths : List Path) :
    Keeps (IsTruthful settings initial) (generatePaths settings paths) := by
  intro session h
  rw [after, generatePaths_run]
  split
  · exact h
  · exact keeps_generateFiles hextension hplace _ session h

end

inductive Call where
  | expand (declaration : Declaration)
  | generateEnum (enum : EnumDeclaration)
  | generateSource (file : Option (List Char)) (source : List Char)
  | generatePaths (paths : List Path)

namespace Call

def run (settings : Settings) (session : Session) : Call → Session
  | expand declaration => (Step.expand settings declaration).after session
  | generateEnum enum => (Step.generateEnum settings enum).after session
  | generateSource file source => (Step.generateSource settings file source).after session
  | generatePaths paths => (Step.generatePaths settings paths).after session

def runAll (settings : Settings) (calls : List Call) (session : Session) : Session :=
  calls.foldl (run settings) session

def IsNamed : Call → Prop
  | expand declaration => ∀ enum ∈ declaration.asEnum?, IsSpelled isDotted enum.name
  | generateEnum enum => IsSpelled isDotted enum.name
  | generateSource _ _ => True
  | generatePaths _ => True

theorem isTruthful_run (hextension : '/' ∉ settings.place.extension)
    (hplace : settings.place.IsNullFree) {call : Call} (hnamed : call.IsNamed)
    (h : IsTruthful settings initial session) :
    IsTruthful settings initial (call.run settings session) := by
  cases call with
  | expand declaration => exact keeps_expand hextension hplace hnamed session h
  | generateEnum enum => exact keeps_generateEnum hextension hplace hnamed session h
  | generateSource file source => exact keeps_generateSource hextension hplace file source session h
  | generatePaths paths => exact keeps_generatePaths hextension hplace paths session h

theorem isTruthful_runAll (hextension : '/' ∉ settings.place.extension)
    (hplace : settings.place.IsNullFree) {calls : List Call} (hnamed : ∀ call ∈ calls, call.IsNamed)
    (h : IsTruthful settings initial session) :
    IsTruthful settings initial (runAll settings calls session) := by
  induction calls generalizing session with
  | nil => exact h
  | cons call calls ih =>
    obtain ⟨hcall, hcalls⟩ := List.forall_mem_cons.mp hnamed
    exact ih hcalls (isTruthful_run hextension hplace hcall h)

end Call

theorem after_of_generateEnum_error (hplace : settings.place.IsNullFree) {enum : EnumDeclaration}
    (hname : IsSpelled isDotted enum.name) {error : Interruption}
    (h : (generateEnum settings enum).outcome session = .error error) :
    (generateEnum settings enum).after session = session := by
  cases hfile : settings.place.scriptFile enum.name (resolve 0 enum.cases) with
  | error error => exact (generateEnum_error session hfile).2
  | ok file =>
    have hown : (Effect.script enum.name file).IsOwn settings.place :=
      ⟨hname, ScriptPlace.path_of_scriptFile hfile⟩
    rw [(generateEnum_spec session (hasNull_of_isOwn hplace hown) hfile).1] at h
    simp at h

/-- From a fresh session on, any calls leave a truthful session behind, interrupted or not; and an
enum that cannot be generated leaves the session as it was. -/
theorem sessions_truthful (hextension : '/' ∉ settings.place.extension)
    (hplace : settings.place.IsNullFree) :
    (∀ disk report calls, (∀ call ∈ calls, Call.IsNamed call) →
        IsTruthful settings disk
          (Call.runAll settings calls { disk := disk, report := report })) ∧
      ∀ session enum error, IsSpelled isDotted enum.name →
        (generateEnum settings enum).outcome session = .error error →
          (generateEnum settings enum).after session = session := by
  constructor
  · intro disk report calls hnamed
    exact Call.isTruthful_runAll hextension hplace hnamed (isTruthful_fresh settings disk report)
  · intro session enum error hname h
    exact after_of_generateEnum_error hplace hname h

theorem sessions_truthful_replaced :
    let first : EnumDeclaration := ⟨"A".toList, [⟨"a".toList, none⟩]⟩
    let long : EnumDeclaration := ⟨"A".toList, [⟨"a".toList, some (.integer Numeral.printLimit)⟩]⟩
    let calls : List Call := [.generateEnum first, .generateEnum long,
      .generateSource none "@GodotEnum enum A: Int \x7b case b \x7d".toList,
      .generatePaths [Path.ofText "missing".toList]]
    let disk : Disk := { entries := [] }
    let session := Call.runAll { } calls { disk := disk }
    IsTruthful { } disk session ∧ session.written.length = 2 ∧ session.generated.length = 1 ∧
      (generateEnum { } long).after session = session := by
  intro first long calls disk session
  have hplace : ({ } : Settings).place.IsNullFree := ⟨by decide, by decide⟩
  have hname : IsSpelled isDotted "A".toList := ⟨'A', [], rfl, by decide, by simp⟩
  obtain ⟨htruthful, hunchanged⟩ := @sessions_truthful { } (by decide) hplace
  have hnamed : ∀ call ∈ calls, call.IsNamed := by
    simp only [calls, List.forall_mem_cons]
    exact ⟨hname, hname, trivial, trivial, List.forall_mem_nil _⟩
  have herror : (generateEnum { } long).outcome session = .error (.numeral .unprintable) := by
    decide +kernel
  exact ⟨htruthful _ _ calls hnamed, by decide +kernel, by decide +kernel,
    hunchanged session long _ hname herror⟩

theorem sessions_truthful_cut :
    let cases := ["a", "b"].map fun name => EnumCase.mk name.toList none
    let calls : List Call := [1, 2].map fun n => .generateEnum ⟨"A".toList, cases.take n⟩
    let disk : Disk := { entries := [], sizeLimit := some 30 }
    let session := Call.runAll { } calls { disk := disk }
    '/' ∉ ({ } : Settings).place.extension ∧ ({ } : Settings).place.IsNullFree ∧
      (∀ call ∈ calls, call.IsNamed) ∧
        ∃ entry ∈ session.generated, entry.2.path ∈ session.written ∧
          session.disk.read entry.2.path ≠ .ok entry.2.bytes := by
  intro cases calls disk session
  have hname : IsSpelled isDotted "A".toList := ⟨'A', [], rfl, by decide, by simp⟩
  have hnamed : ∀ call ∈ calls, call.IsNamed := by
    intro call hcall
    obtain ⟨n, -, rfl⟩ := List.mem_map.mp hcall
    exact hname
  exact ⟨by decide, ⟨by decide, by decide⟩, hnamed, by decide +kernel⟩

end Step

end EnumExport
