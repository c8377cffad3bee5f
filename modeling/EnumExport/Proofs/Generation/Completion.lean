import EnumExport.Proofs.Disk.Reach
import EnumExport.Proofs.Generation.Expansion
import EnumExport.Proofs.Reading.Failures

namespace EnumExport

def Disk.HoldsText (disk : Disk) (path : Path) (text : List Char) : Prop :=
  ∃ bytes decoded, disk.read path = .ok bytes ∧ Utf8.decode bytes = .ok decoded ∧
    text = unifyLineEnds decoded

theorem Disk.readDeclarations_of_holdsText {disk : Disk} {path : Path} {text : List Char}
    (h : disk.HoldsText path text) (marker : List Char) :
    disk.readDeclarations marker path =
      (readSource marker (some path.text) text).mapError FileReadError.ofReadError := by
  obtain ⟨bytes, decoded, hread, hdecode, rfl⟩ := h
  simp only [readDeclarations, hread, hdecode]
  cases readSource marker (some path.text) (unifyLineEnds decoded) <;> rfl

theorem Disk.readDeclarations_of_not_holdsText {disk : Disk} {path : Path}
    (h : ∀ text, ¬ disk.HoldsText path text) (marker : List Char) :
    (∃ error, disk.read path = .error error ∧
        disk.readDeclarations marker path = .error (.access error)) ∨
      ∃ error, disk.readDeclarations marker path = .error (.encoding error) := by
  unfold readDeclarations
  cases hread : disk.read path with
  | error error => exact Or.inl ⟨error, rfl, rfl⟩
  | ok bytes =>
    cases hdecode : Utf8.decode bytes with
    | error error => exact Or.inr ⟨error, by simp [hdecode]⟩
    | ok decoded => exact absurd ⟨bytes, decoded, hread, hdecode, rfl⟩ (h _)

def FileReadError.reason : FileReadError → List Char
  | access error => error.message
  | encoding error => error.message
  | source error => error.message
  | numeral error => error.message

namespace Step

/-- Whether a file stops the run that comes to it in a session: it has an overlong literal, or
declares an enum with a value that is too long to be printed. -/
def Stops (settings : Settings) (path : Path) (session : Session) : Prop :=
  ∃ text, session.disk.HoldsText path text ∧
    (MeetsOverlongLiteral settings.marker text ∨
      ∃ declarations, readSource settings.marker (some path.text) text = .ok declarations ∧
        ∃ declaration ∈ declarations, ¬ declaration.IsPrintable)

def skipped (path : Path) : FileReadError → Diagnostic
  | .source error => ⟨.error, error.problem⟩
  | error => ⟨.error, "Skipping ".toList ++ path.text ++ ": ".toList ++ error.reason, none, none⟩

inductive Treats (settings : Settings) (path : Path) (before after : Session) : Nat → Prop
  | skipped {error : FileReadError} :
      before.disk.readDeclarations settings.marker path = .error error →
      Records (skipped path error) before after → Treats settings path before after 0
  | expanded {declarations : List Declaration} :
      before.disk.readDeclarations settings.marker path = .ok declarations →
      Through (Expands settings) declarations before after →
      Treats settings path before after declarations.length

def treat (settings : Settings) (path : Path) : Except FileReadError (List Declaration) → Step Nat
  | .ok declarations => do
    expandAll settings declarations
    return declarations.length
  | .error (.source error) => do
    report ⟨.error, error.problem⟩
    return 0
  | .error (.access (.file error)) => do
    reportSkipped path error.message
    return 0
  | .error (.encoding error) => do
    reportSkipped path error.message
    return 0
  | .error (.access error) => throw (.access error)
  | .error (.numeral error) => throw (.numeral error)

theorem generateFile_run (settings : Settings) (path : Path) (session : Session) :
    (generateFile settings path).run.run session =
      (treat settings path (session.disk.readDeclarations settings.marker path)).run.run
        session := rfl

theorem treat_ok {settings : Settings} (session : Session) (path : Path)
    {declarations : List Declaration}
    (hnull : ∀ d ∈ declarations, Disk.hasNull (settings.place.pathOf d.name) = false)
    (hprintable : ∀ d ∈ declarations, d.IsPrintable) :
    (treat settings path (.ok declarations)).outcome session = .ok declarations.length ∧
      Through (Expands settings) declarations session
        ((treat settings path (.ok declarations)).after session) := by
  obtain ⟨houtcome, hthrough⟩ := expandAll_spec session hnull hprintable
  rw [treat, outcome_bind houtcome, after_bind houtcome]
  exact ⟨rfl, hthrough⟩

theorem treat_error (settings : Settings) (session : Session) (path : Path)
    {error : FileReadError} (hnull : error ≠ .access .nullInPath)
    (hnumeral : ∀ numeral, error ≠ .numeral numeral) :
    (treat settings path (.error error)).outcome session = .ok 0 ∧
      Records (skipped path error) session
        ((treat settings path (.error error)).after session) := by
  have hreport : treat settings path (.error error) =
      (report (skipped path error) >>= fun _ => return 0) := by
    cases error with
    | source error => rfl
    | encoding error => rfl
    | numeral error => exact absurd rfl (hnumeral error)
    | access error =>
      cases error with
      | nullInPath => exact absurd rfl hnull
      | file error => rfl
  have hknown : (skipped path error).severity.IsKnown := by cases error <;> trivial
  obtain ⟨houtcome, hrecords⟩ := report_spec session hknown
  rw [hreport, outcome_bind houtcome, after_bind houtcome]
  exact ⟨rfl, hrecords⟩

theorem exists_treats_of_error {settings : Settings} {path : Path} {session : Session}
    {error : FileReadError}
    (hread : session.disk.readDeclarations settings.marker path = .error error)
    (hnull : error ≠ .access .nullInPath) (hnumeral : ∀ numeral, error ≠ .numeral numeral) :
    ∃ count, (generateFile settings path).outcome session = .ok count ∧
      Treats settings path session ((generateFile settings path).after session) count := by
  have htreat := treat_error settings session path hnull hnumeral
  rw [outcome, after, generateFile_run, hread]
  exact ⟨0, htreat.1, .skipped hread htreat.2⟩

theorem generateFile_spec {settings : Settings} (hplace : settings.place.IsNullFree)
    {path : Path} (hnull : Disk.hasNull path = false) {session : Session}
    (hgoes : ¬ Stops settings path session) :
    ∃ count, (generateFile settings path).outcome session = .ok count ∧
      Treats settings path session ((generateFile settings path).after session) count := by
  by_cases htext : ∃ text, session.disk.HoldsText path text
  · obtain ⟨text, htext⟩ := htext
    have hread := Disk.readDeclarations_of_holdsText htext settings.marker
    cases hsource : readSource settings.marker (some path.text) text with
    | ok declarations =>
      have hprintable : ∀ d ∈ declarations, d.IsPrintable := by
        intro d hd
        by_contra hlong
        exact hgoes ⟨text, htext, Or.inr ⟨declarations, hsource, d, hd, hlong⟩⟩
      have htreat := treat_ok session path (hasNull_pathOf_of_readSource hplace hsource) hprintable
      rw [hsource] at hread
      rw [outcome, after, generateFile_run, hread]
      exact ⟨declarations.length, htreat.1, .expanded hread htreat.2⟩
    | error error =>
      rw [hsource] at hread
      cases error with
      | source error =>
        exact exists_treats_of_error hread (by simp [FileReadError.ofReadError])
          (by simp [FileReadError.ofReadError])
      | numeral error =>
        exact absurd ⟨text, htext, Or.inl (readSource_numeral_iff.mp ⟨error, hsource⟩)⟩ hgoes
  · have hnone : ∀ text, ¬ session.disk.HoldsText path text := not_exists.mp htext
    rcases Disk.readDeclarations_of_not_holdsText hnone settings.marker with
      ⟨error, herror, hread⟩ | ⟨error, hread⟩
    · obtain ⟨fileError, rfl⟩ := Disk.isFileError_read hnull error herror
      exact exists_treats_of_error hread (by simp) (by simp)
    · exact exists_treats_of_error hread (by simp) (by simp)

theorem generateFile_error {settings : Settings} (hplace : settings.place.IsNullFree)
    {path : Path} {session : Session} (hstops : Stops settings path session) :
    ∃ error, (generateFile settings path).outcome session = .error (.numeral error) := by
  obtain ⟨text, htext, hstops⟩ := hstops
  have hread := Disk.readDeclarations_of_holdsText htext settings.marker
  rw [outcome, generateFile_run, hread]
  rcases hstops with hlong | ⟨declarations, hsource, hprintable⟩
  · obtain ⟨error, herror⟩ := readSource_numeral_iff.mpr hlong
    rw [herror]
    exact ⟨error, rfl⟩
  · have herror := expandAll_error session (hasNull_pathOf_of_readSource hplace hsource) hprintable
    rw [hsource]
    exact ⟨.unprintable, outcome_bind_error herror _⟩

def turns (settings : Settings) : List Path → Session → List (Path × Session)
  | [], _ => []
  | path :: paths, session =>
    (path, session) :: turns settings paths ((generateFile settings path).after session)

inductive TreatsAll (settings : Settings) : List Path → Session → Session → Nat → Prop
  | nil {session : Session} : TreatsAll settings [] session session 0
  | cons {path : Path} {paths : List Path} {before middle after : Session} {count more : Nat} :
      Treats settings path before middle count → TreatsAll settings paths middle after more →
      TreatsAll settings (path :: paths) before after (count + more)

theorem generateFiles_spec {settings : Settings} (hplace : settings.place.IsNullFree)
    {paths : List Path} (hnull : ∀ path ∈ paths, Disk.hasNull path = false) {session : Session}
    (hgoes : ∀ turn ∈ turns settings paths session, ¬ Stops settings turn.1 turn.2) :
    ∃ count, (generateFiles settings paths).outcome session = .ok count ∧
      TreatsAll settings paths session ((generateFiles settings paths).after session) count := by
  induction paths generalizing session with
  | nil => exact ⟨0, rfl, .nil⟩
  | cons path paths ih =>
    obtain ⟨count, houtcome, htreats⟩ := generateFile_spec hplace
      (hnull path (List.mem_cons_self ..)) (hgoes (path, session) (List.mem_cons_self ..))
    obtain ⟨more, hmore, hall⟩ := ih (fun path hpath => hnull path (List.mem_cons_of_mem _ hpath))
      (fun turn hturn => hgoes turn (List.mem_cons_of_mem _ hturn))
    refine ⟨count + more, ?_, ?_⟩
    · rw [generateFiles, outcome_bind houtcome, outcome_bind hmore]
      rfl
    · have hafter : (generateFiles settings (path :: paths)).after session =
          (generateFiles settings paths).after ((generateFile settings path).after session) := by
        rw [generateFiles, after_bind houtcome, after_bind hmore]
        rfl
      rw [hafter]
      exact .cons htreats hall

theorem generateFiles_error {settings : Settings} (hplace : settings.place.IsNullFree)
    {paths : List Path} {session : Session}
    (hstops : ∃ turn ∈ turns settings paths session, Stops settings turn.1 turn.2) :
    ∃ error, (generateFiles settings paths).outcome session = .error error := by
  induction paths generalizing session with
  | nil => simp [turns] at hstops
  | cons path paths ih =>
    rw [generateFiles]
    cases houtcome : (generateFile settings path).outcome session with
    | error error => exact ⟨error, outcome_bind_error houtcome _⟩
    | ok count =>
      obtain ⟨turn, hturn, hstops⟩ := hstops
      rcases List.mem_cons.mp hturn with rfl | hturn
      -- The file that the run has come through cannot be the one that stops it.
      · obtain ⟨error, herror⟩ := generateFile_error hplace hstops
        rw [houtcome] at herror
        simp at herror
      · obtain ⟨error, herror⟩ := ih ⟨turn, hturn, hstops⟩
        rw [outcome_bind houtcome]
        exact ⟨error, outcome_bind_error herror _⟩

theorem generatePaths_run (settings : Settings) (paths : List Path) (session : Session) :
    (generatePaths settings paths).run.run session =
      match session.disk.sourceFiles paths with
      | .error error => (.error (.access error), session)
      | .ok files => (generateFiles settings files).run.run session := by
  -- The session that the run begins by reading is the one it is run in.
  have hget : (generatePaths settings paths).run.run session = ((do
      match session.disk.sourceFiles paths with
      | .error error => throw (.access error)
      | .ok files => generateFiles settings files : Step Nat)).run.run session := rfl
  rw [hget]
  cases session.disk.sourceFiles paths <;> rfl

theorem generatePaths_eq_generateFiles {settings : Settings} {paths files : List Path}
    {session : Session} (hfiles : session.disk.sourceFiles paths = .ok files) :
    (generatePaths settings paths).outcome session =
        (generateFiles settings files).outcome session ∧
      (generatePaths settings paths).after session =
        (generateFiles settings files).after session := by
  have hrun := generatePaths_run settings paths session
  rw [hfiles] at hrun
  exact ⟨congrArg Prod.fst hrun, congrArg Prod.snd hrun⟩

def Goes (settings : Settings) (paths : List Path) (session : Session) : Prop :=
  (∀ path ∈ paths, session.disk.IsInReach path) ∧
    ∀ files, session.disk.sourceFiles paths = .ok files →
      ∀ turn ∈ turns settings files session, ¬ Stops settings turn.1 turn.2

theorem goes_of_outcome {settings : Settings} (hplace : settings.place.IsNullFree)
    {session : Session} {paths : List Path} {count : Nat}
    (h : (generatePaths settings paths).outcome session = .ok count) :
    Goes settings paths session := by
  cases hfiles : session.disk.sourceFiles paths with
  | error error =>
    rw [outcome, generatePaths_run, hfiles] at h
    simp at h
  | ok files =>
    rw [(generatePaths_eq_generateFiles hfiles).1] at h
    refine ⟨Disk.exists_sourceFiles_iff.mp ⟨files, hfiles⟩, ?_⟩
    intro files' hfiles' turn hturn hstops
    obtain rfl : files = files' := Except.ok.inj (hfiles.symm.trans hfiles')
    obtain ⟨error, herror⟩ := generateFiles_error hplace ⟨turn, hturn, hstops⟩
    rw [h] at herror
    simp at herror

theorem exists_treatsAll_of_goes {settings : Settings} (hplace : settings.place.IsNullFree)
    {session : Session} (hdisk : session.disk.IsNullFree) {paths : List Path}
    (hnull : ∀ path ∈ paths, Disk.hasNull path = false) (hgoes : Goes settings paths session) :
    ∃ count files, (generatePaths settings paths).outcome session = .ok count ∧
      session.disk.sourceFiles paths = .ok files ∧
      TreatsAll settings files session ((generatePaths settings paths).after session) count := by
  obtain ⟨files, hfiles⟩ := Disk.exists_sourceFiles_iff.mpr hgoes.1
  obtain ⟨count, houtcome, hall⟩ := generateFiles_spec hplace
    (Disk.hasNull_of_mem_sourceFiles hdisk hnull hfiles) (hgoes.2 files hfiles)
  obtain ⟨hsame, hafter⟩ := @generatePaths_eq_generateFiles settings _ _ _ hfiles
  rw [hsame, hafter]
  exact ⟨count, files, houtcome, hfiles, hall⟩

/-- A run over paths ends with a count exactly if all paths are in reach and no file stops it. All
files are then treated, one after the other. -/
theorem generatePaths_completes_iff {settings : Settings} (hplace : settings.place.IsNullFree)
    {session : Session} (hdisk : session.disk.IsNullFree) {paths : List Path}
    (hnull : ∀ path ∈ paths, Disk.hasNull path = false) :
    ((∃ count, (generatePaths settings paths).outcome session = .ok count) ↔
        Goes settings paths session) ∧
      ∀ count, (generatePaths settings paths).outcome session = .ok count →
        ∃ files, session.disk.sourceFiles paths = .ok files ∧
          TreatsAll settings files session
            ((generatePaths settings paths).after session) count := by
  refine ⟨⟨?_, ?_⟩, ?_⟩
  · rintro ⟨count, h⟩
    exact goes_of_outcome hplace h
  · intro hgoes
    obtain ⟨count, files, h, -⟩ := exists_treatsAll_of_goes hplace hdisk hnull hgoes
    exact ⟨count, h⟩
  · intro count h
    obtain ⟨count', files, h', hfiles, hall⟩ :=
      exists_treatsAll_of_goes hplace hdisk hnull (goes_of_outcome hplace h)
    obtain rfl : count = count' := Except.ok.inj (h.symm.trans h')
    exact ⟨files, hfiles, hall⟩

theorem generatePaths_completes_missing :
    let disk : Disk := { entries := [(["b.swift".toList],
      .file (Utf8.encode "@GodotEnum enum B: Int \x7b case b \x7d".toList))] }
    let session : Session := { disk := disk }
    let paths := [Path.ofText "a.swift".toList, Path.ofText "b.swift".toList]
    Goes { } paths session ∧
      ∃ files, session.disk.sourceFiles paths = .ok files ∧
        TreatsAll { } files session ((generatePaths { } paths).after session) 1 := by
  intro disk session paths
  have hplace : ({ } : Settings).place.IsNullFree := ⟨by decide, by decide⟩
  have hdisk : session.disk.IsNullFree := by simp [session, disk, Disk.IsNullFree]
  have hnull : ∀ path ∈ paths, Disk.hasNull path = false := by decide
  have houtcome : (generatePaths { } paths).outcome session = .ok 1 := by decide +kernel
  obtain ⟨hgoes, hall⟩ := generatePaths_completes_iff hplace hdisk hnull
  exact ⟨hgoes.mp ⟨1, houtcome⟩, hall 1 houtcome⟩

end Step

end EnumExport
