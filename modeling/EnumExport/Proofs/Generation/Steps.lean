import EnumExport.Generation.SourceFiles
import EnumExport.Proofs.Console.Diagnostics
import EnumExport.Proofs.Disk.Storing
import EnumExport.Proofs.Text.Encoding

namespace EnumExport

noncomputable def ScriptFile.bytes (file : ScriptFile) : List UInt8 :=
  file.contents.utf8Encode.data.toList

theorem ScriptFile.encode_contents (file : ScriptFile) : Utf8.encode file.contents = file.bytes :=
  Utf8.encode_eq file.contents

namespace Step

variable {α β : Type}

def outcome (step : Step α) (session : Session) : Except Interruption α :=
  (step.run.run session).1

def after (step : Step α) (session : Session) : Session := (step.run.run session).2

theorem run_bind (step : Step α) (next : α → Step β) (session : Session) :
    (step >>= next).run.run session =
      match step.outcome session with
      | .ok value => (next value).run.run (step.after session)
      | .error error => (.error error, step.after session) := by
  unfold outcome after ExceptT.run StateT.run
  simp only [bind, ExceptT.bind, ExceptT.mk, StateT.bind, ExceptT.bindCont]
  cases step session with
  | mk result after => cases result <;> rfl

theorem outcome_bind {step : Step α} {session : Session} {value : α}
    (h : step.outcome session = .ok value) (next : α → Step β) :
    (step >>= next).outcome session = (next value).outcome (step.after session) := by
  rw [outcome, run_bind, h, outcome]

theorem after_bind {step : Step α} {session : Session} {value : α}
    (h : step.outcome session = .ok value) (next : α → Step β) :
    (step >>= next).after session = (next value).after (step.after session) := by
  change ((step >>= next).run.run session).2 = _
  rw [run_bind, h]
  rfl

theorem outcome_bind_error {step : Step α} {session : Session} {error : Interruption}
    (h : step.outcome session = .error error) (next : α → Step β) :
    (step >>= next).outcome session = .error error := by
  rw [outcome, run_bind, h]

theorem after_bind_error {step : Step α} {session : Session} {error : Interruption}
    (h : step.outcome session = .error error) (next : α → Step β) :
    (step >>= next).after session = step.after session := by
  rw [after, run_bind, h]

theorem run_bind_congr_left {step other : Step α} {session : Session}
    (h : step.run.run session = other.run.run session) (next : α → Step β) :
    (step >>= next).run.run session = (other >>= next).run.run session := by
  rw [run_bind, run_bind, outcome, outcome, after, after, h]

theorem run_bind_congr_right {step : Step α} {next other : α → Step β} {session : Session}
    (h : ∀ value, (next value).run.run (step.after session) =
      (other value).run.run (step.after session)) :
    (step >>= next).run.run session = (step >>= other).run.run session := by
  rw [run_bind, run_bind]
  cases step.outcome session with
  | error error => rfl
  | ok value => exact h value

theorem run_map (step : Step α) (f : α → β) (session : Session) :
    (do let value ← step; return f value : Step β).run.run session =
      ((step.outcome session).map f, step.after session) := by
  rw [run_bind]
  cases step.outcome session <;> rfl

theorem exists_of_outcome_bind {step : Step α} {next : α → Step β} {session : Session} {value : β}
    (h : (step >>= next).outcome session = .ok value) :
    ∃ first, step.outcome session = .ok first ∧
      (next first).outcome (step.after session) = .ok value := by
  cases houtcome : step.outcome session with
  | error error =>
    rw [outcome_bind_error houtcome] at h
    simp at h
  | ok first =>
    rw [outcome_bind houtcome] at h
    exact ⟨first, rfl, h⟩

def Keeps (holds : Session → Prop) (step : Step α) : Prop :=
  ∀ session, holds session → holds (step.after session)

variable {holds : Session → Prop}

theorem keeps_pure (value : α) : Keeps holds (pure value : Step α) := fun _ h => h

theorem Keeps.bind {step : Step α} {next : α → Step β} (hstep : Keeps holds step)
    (hnext : ∀ value, Keeps holds (next value)) : Keeps holds (step >>= next) := by
  intro session h
  cases houtcome : step.outcome session with
  | error error =>
    rw [after_bind_error houtcome]
    exact hstep session h
  | ok value =>
    rw [after_bind houtcome]
    exact hnext value _ (hstep session h)

end Step

namespace Report

theorem add_eq (report : Report) {d : Diagnostic} (h : d.severity.IsKnown) :
    ∃ text, report.add d = (.ok (), ⟨report.diagnostics ++ [d], report.console ++ text⟩) := by
  obtain ⟨before, after, -, -, hshown⟩ := Diagnostic.exists_consoleText h
  exact ⟨_, by rw [add, hshown]⟩

end Report

namespace Step

def Records (d : Diagnostic) (before after : Session) : Prop :=
  ∃ console, after =
    { before with report := ⟨before.report.diagnostics ++ [d], before.report.console ++ console⟩ }

theorem report_run (d : Diagnostic) (session : Session) :
    (report d).run.run session = ((do
      let (outcome, report) := session.report.add d
      set { session with report := report }
      match outcome with
      | .ok () => return ()
      | .error error => throw (.markup error) : Step Unit)).run.run session := rfl

theorem report_spec (session : Session) {d : Diagnostic} (h : d.severity.IsKnown) :
    (report d).outcome session = .ok () ∧ Records d session ((report d).after session) := by
  obtain ⟨text, hadd⟩ := session.report.add_eq h
  have hrun := report_run d session
  rw [hadd] at hrun
  exact ⟨congrArg Prod.fst hrun, text, congrArg Prod.snd hrun⟩

def unwritten (path : Path) (error : FileError) : Diagnostic :=
  ⟨.warning, "Error writing file: ".toList ++ error.message, some path.text, none⟩

inductive Writes (file : ScriptFile) (before : Session) : Bool → Session → Prop
  | written {disk : Disk} : before.disk.store file.path file.bytes = (.ok (), disk) →
      disk.read file.path = .ok file.bytes →
      Writes file before true { before with disk := disk }
  | failed {disk : Disk} {error : FileError} {after : Session} :
      before.disk.store file.path file.bytes = (.error (.file error), disk) →
      Records (unwritten file.path error) { before with disk := disk } after →
      Writes file before false after

theorem write_run (file : ScriptFile) (session : Session) :
    (write file).run.run session = ((do
      let (outcome, disk) := session.disk.store file.path (Utf8.encode file.contents)
      set { session with disk := disk }
      match outcome with
      | .ok () => return true
      | .error (.file error) =>
        report (unwritten file.path error)
        return false
      | .error error => throw (.access error) : Step Bool)).run.run session := rfl

theorem write_spec (session : Session) {file : ScriptFile}
    (hstores : session.disk.stores? file.path ≠ none) :
    ∃ written, (write file).outcome session = .ok written ∧
      Writes file session written ((write file).after session) := by
  have hget := write_run file session
  rw [ScriptFile.encode_contents] at hget
  rw [ne_eq, ← @Disk.success?_store_eq_none_iff session.disk file.path file.bytes] at hstores
  cases hstore : session.disk.store file.path file.bytes with
  | mk outcome disk =>
    rw [hstore] at hget hstores
    cases outcome with
    | ok _ =>
      refine ⟨true, congrArg Prod.fst hget, ?_⟩
      have hafter : (write file).after session = { session with disk := disk } :=
        congrArg Prod.snd hget
      rw [hafter]
      exact .written hstore (Disk.read_of_store_ok hstore)
    | error error =>
      cases error with
      | nullInPath => exact absurd rfl hstores
      | file error =>
        obtain ⟨houtcome, hrecords⟩ :=
          report_spec { session with disk := disk } (d := unwritten file.path error) trivial
        have hrun : (write file).run.run session =
            ((do report (unwritten file.path error); return false : Step Bool)).run.run
              { session with disk := disk } := hget
        refine ⟨false, ?_, .failed hstore ?_⟩
        · rw [Step.outcome, hrun]
          exact outcome_bind houtcome _
        · have hafter : (write file).after session = (report (unwritten file.path error)).after
              { session with disk := disk } :=
            (congrArg Prod.snd hrun).trans (after_bind houtcome fun _ => (return false : Step Bool))
          rw [hafter]
          exact hrecords

theorem write_error {session : Session} {file : ScriptFile}
    (hstores : session.disk.stores? file.path = none) :
    (write file).outcome session = .error (.access .nullInPath) := by
  have hget := write_run file session
  rw [ScriptFile.encode_contents] at hget
  rw [← @Disk.success?_store_eq_none_iff session.disk file.path file.bytes] at hstores
  cases hstore : session.disk.store file.path file.bytes with
  | mk outcome disk =>
    rw [hstore] at hget hstores
    cases outcome with
    | ok _ => simp [Disk.success?] at hstores
    | error error =>
      cases error with
      | nullInPath => exact congrArg Prod.fst hget
      | file error => simp [Disk.success?] at hstores

end Step

namespace ResolvedCase

def IsPrintable (c : ResolvedCase) : Prop := c.value.natAbs < Numeral.printLimit

def entry (c : ResolvedCase) : List Char :=
  constantName c.name ++ " = ".toList ++ Numeral.decimal c.value

theorem scriptEntry_of_isPrintable {c : ResolvedCase} (h : c.IsPrintable) :
    scriptEntry c = .ok c.entry := by
  unfold IsPrintable at h
  rw [scriptEntry, Numeral.print, if_pos h]
  rfl

theorem scriptEntry_of_not_isPrintable {c : ResolvedCase} (h : ¬ c.IsPrintable) :
    scriptEntry c = .error .unprintable := by
  unfold IsPrintable at h
  rw [scriptEntry, Numeral.print, if_neg h]
  rfl

theorem mapM_scriptEntry {cases : List ResolvedCase} (h : ∀ c ∈ cases, c.IsPrintable) :
    cases.mapM scriptEntry = .ok (cases.map entry) := by
  rw [mapM_eq_ok_iff, List.forall₂_map_right_iff, List.forall₂_same]
  exact fun c hc => scriptEntry_of_isPrintable (h c hc)

end ResolvedCase

namespace ScriptPlace

def script (place : ScriptPlace) (name : List Char) (cases : List ResolvedCase) : ScriptFile where
  path := place.pathOf name
  contents := "class_name ".toList ++ name ++ "\n\nenum \x7b\n\t".toList ++
    ",\n\t".toList.intercalate (cases.map ResolvedCase.entry) ++ "\n\x7d".toList

theorem scriptFile_of_isPrintable (place : ScriptPlace) (name : List Char)
    {cases : List ResolvedCase} (h : ∀ c ∈ cases, c.IsPrintable) :
    place.scriptFile name cases = .ok (place.script name cases) := by
  rw [scriptFile, scriptText, ResolvedCase.mapM_scriptEntry h]
  rfl

theorem scriptFile_of_not_isPrintable (place : ScriptPlace) (name : List Char)
    {cases : List ResolvedCase} (h : ∃ c ∈ cases, ¬ c.IsPrintable) :
    place.scriptFile name cases = .error .unprintable := by
  obtain ⟨c, hc, hlong⟩ := h
  have hentry : ∃ error, scriptEntry c = .error error :=
    ⟨.unprintable, ResolvedCase.scriptEntry_of_not_isPrintable hlong⟩
  obtain ⟨error, herror⟩ := exists_mapM_error_iff.mpr ⟨c, hc, hentry⟩
  obtain ⟨before, d, after, -, -, hd⟩ := mapM_eq_error_iff.mp herror
  have hunprintable : error = .unprintable := by
    by_cases hprintable : d.IsPrintable
    · rw [ResolvedCase.scriptEntry_of_isPrintable hprintable] at hd
      simp at hd
    · rw [ResolvedCase.scriptEntry_of_not_isPrintable hprintable] at hd
      exact (Except.error.inj hd).symm
  rw [scriptFile, scriptText, herror, hunprintable]
  rfl

end ScriptPlace

namespace Step

def keepScript (session : Session) (name : List Char) (file : ScriptFile) : Session :=
  { session with generated := Keyed.set name file session.generated }

inductive Generates (settings : Settings) (name : List Char) (file : ScriptFile)
    (before : Session) : Session → Prop
  | dry : settings.dryRun = true → Generates settings name file before (keepScript before name file)
  | written {disk : Disk} : settings.dryRun = false →
      before.disk.store file.path file.bytes = (.ok (), disk) →
      disk.read file.path = .ok file.bytes →
      Generates settings name file before
        { keepScript before name file with disk := disk, written := before.written ++ [file.path] }
  | failed {disk : Disk} {error : FileError} {after : Session} : settings.dryRun = false →
      before.disk.store file.path file.bytes = (.error (.file error), disk) →
      Records (unwritten file.path error) { keepScript before name file with disk := disk } after →
      Generates settings name file before after

def keep (settings : Settings) (name : List Char) (file : ScriptFile) : Step Unit := do
  modify fun session => { session with generated := Keyed.set name file session.generated }
  unless settings.dryRun do
    if ← write file then
      modify fun session => { session with written := session.written ++ [file.path] }

theorem keep_run_dry {settings : Settings} (hdry : settings.dryRun = true) (name : List Char)
    (file : ScriptFile) (session : Session) :
    (keep settings name file).run.run session = (.ok (), keepScript session name file) := by
  rw [keep, hdry]
  rfl

theorem keep_run_wet {settings : Settings} (hwet : settings.dryRun = false) (name : List Char)
    (file : ScriptFile) (session : Session) :
    (keep settings name file).run.run session = ((do
      if ← write file then
        modify fun session => { session with written := session.written ++ [file.path] } :
          Step Unit)).run.run (keepScript session name file) := by
  rw [keep, hwet]
  rfl

def Admits (settings : Settings) (disk : Disk) (file : ScriptFile) : Prop :=
  settings.dryRun = false → disk.stores? file.path ≠ none

theorem keep_spec {settings : Settings} {session : Session} (name : List Char) {file : ScriptFile}
    (hadmits : Admits settings session.disk file) :
    (keep settings name file).outcome session = .ok () ∧
      Generates settings name file session ((keep settings name file).after session) := by
  unfold outcome after
  by_cases hdry : settings.dryRun = true
  · rw [keep_run_dry hdry]
    exact ⟨rfl, .dry hdry⟩
  · have hwet : settings.dryRun = false := by simpa using hdry
    obtain ⟨written, houtcome, hwrites⟩ := write_spec (keepScript session name file) (hadmits hwet)
    rw [keep_run_wet hwet, run_bind, houtcome]
    generalize (write file).after (keepScript session name file) = middle at hwrites ⊢
    cases hwrites with
    | written hstore hread => exact ⟨rfl, .written hwet hstore hread⟩
    | failed hstore hrecords => exact ⟨rfl, .failed hwet hstore hrecords⟩

theorem keep_outcome_iff {settings : Settings} {session : Session} {name : List Char}
    {file : ScriptFile} :
    (keep settings name file).outcome session = .ok () ↔ Admits settings session.disk file := by
  refine ⟨fun h hwet hstores => ?_, fun hadmits => (keep_spec name hadmits).1⟩
  have herror := @write_error (keepScript session name file) file hstores
  rw [outcome, keep_run_wet hwet, run_bind, herror] at h
  simp at h

theorem generateEnum_eq {settings : Settings} {enum : EnumDeclaration} {file : ScriptFile}
    (hfile : settings.place.scriptFile enum.name (resolve 0 enum.cases) = .ok file) :
    generateEnum settings enum = (do keep settings enum.name file; return file) := by
  rw [generateEnum, hfile, keep]
  cases settings.dryRun with
  | true => rfl
  | false =>
    simp only [Bool.false_eq_true, if_false, bind_assoc]
    refine bind_congr fun _ => bind_congr fun written => ?_
    cases written <;> rfl

theorem generateEnum_spec {settings : Settings} (session : Session) {enum : EnumDeclaration}
    {file : ScriptFile} (hnull : Disk.hasNull file.path = false)
    (hfile : settings.place.scriptFile enum.name (resolve 0 enum.cases) = .ok file) :
    (generateEnum settings enum).outcome session = .ok file ∧
      Generates settings enum.name file session ((generateEnum settings enum).after session) := by
  have hadmits : Admits settings session.disk file := fun _ => Disk.stores?_ne_none hnull
  obtain ⟨houtcome, hgenerates⟩ := keep_spec enum.name hadmits
  rw [generateEnum_eq hfile, outcome_bind houtcome, after_bind houtcome]
  exact ⟨rfl, hgenerates⟩

theorem generateEnum_error {settings : Settings} (session : Session) {enum : EnumDeclaration}
    {error : NumeralError}
    (hfile : settings.place.scriptFile enum.name (resolve 0 enum.cases) = .error error) :
    (generateEnum settings enum).outcome session = .error (.numeral error) ∧
      (generateEnum settings enum).after session = session := by
  have hrun : (generateEnum settings enum).run.run session =
      (.error (.numeral error), session) := by
    rw [generateEnum, hfile]
    rfl
  exact ⟨congrArg Prod.fst hrun, congrArg Prod.snd hrun⟩

end Step

end EnumExport
