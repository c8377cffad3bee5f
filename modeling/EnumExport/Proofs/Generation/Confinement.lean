import EnumExport.Proofs.Disk.Growth
import EnumExport.Proofs.Generation.Completion

namespace EnumExport

theorem slashPieces_of_not_mem {text : List Char} (h : '/' ∉ text) : slashPieces text = [text] := by
  induction text with
  | nil => rfl
  | cons c text ih =>
    have hc := List.ne_of_not_mem_cons h
    rw [slashPieces, if_neg hc.symm, ih (List.not_mem_of_not_mem_cons h)]

theorem isSuffix_of_dotted_isSuffix {ending front text : List Char} (hending : '.' ∉ ending)
    (h : '.' :: ending <:+ front ++ '.' :: text) : ending <:+ text := by
  rcases List.suffix_or_suffix_of_suffix h (List.suffix_append front ('.' :: text)) with
    hshort | hlong
  · rcases List.suffix_cons_iff.mp hshort with heq | hinside
    · obtain rfl := (List.cons.inj heq).2
      exact List.suffix_rfl
    · exact (List.suffix_cons '.' ending).trans hinside
  · rcases List.suffix_cons_iff.mp hlong with heq | hinside
    · obtain rfl := (List.cons.inj heq).2
      exact List.suffix_rfl
    · exact absurd (hinside.subset (List.mem_cons_self ..)) hending

theorem Disk.isSpelled_of_readDeclarations {disk : Disk} {marker : List Char} {path : Path}
    {declarations : List Declaration} (h : disk.readDeclarations marker path = .ok declarations) :
    ∀ d ∈ declarations, IsSpelled isDotted d.name := by
  unfold readDeclarations at h
  split at h
  · simp at h
  · split at h
    · simp at h
    · split at h
      · simp at h
      · rename_i hsource
        obtain rfl := Except.ok.inj h
        exact isSpelled_of_readSource hsource

namespace ScriptPlace

/-- Scripts go right below a directory that is named without reference to a parent, and none of
them looks like a source file. -/
structure IsApart (place : ScriptPlace) : Prop where
  directory : Disk.parentName ∉ place.directory.names
  extension : '/' ∉ place.extension
  ending : ¬ "swift".toList <:+ place.extension

variable {place : ScriptPlace} {name : List Char}

theorem pathOf_eq (hextension : '/' ∉ place.extension) (hname : IsSpelled isDotted name) :
    place.pathOf name = place.directory.below [name ++ place.dottedExtension] := by
  have hslash : '/' ∉ name ++ place.dottedExtension := by
    intro h
    rcases List.mem_append.mp h with h | h
    · exact absurd (hname.forall_mem isNamePart_isDotted '/' h) (by decide)
    · rcases List.mem_cons.mp h with h | h
      · exact absurd h (by decide)
      · exact hextension ((List.dropWhile_sublist _).subset h)
  obtain ⟨first, rest, rfl, hfirst, -⟩ := hname
  have hstart : first ≠ '/' := ne_of_holds hfirst (by decide)
  have hdot : first ≠ '.' := ne_of_holds hfirst (by decide)
  have hfile : Path.ofText (first :: rest ++ place.dottedExtension) =
      ⟨.here, [first :: rest ++ place.dottedExtension]⟩ := by
    rw [Path.ofText, slashPieces_of_not_mem hslash]
    simp [Anchor.ofText, Path.isName, hstart, hdot]
  rw [pathOf, hfile]
  rfl

theorem pathOf_inj {other : List Char} (hextension : '/' ∉ place.extension)
    (hname : IsSpelled isDotted name) (hother : IsSpelled isDotted other)
    (h : place.pathOf name = place.pathOf other) : name = other := by
  rw [pathOf_eq hextension hname, pathOf_eq hextension hother] at h
  have hlast := List.append_cancel_left (congrArg Path.names h)
  exact List.append_cancel_right (List.cons.inj hlast).1

theorem append_ne_parentName (hname : IsSpelled isDotted name) (ending : List Char) :
    name ++ ending ≠ Disk.parentName := by
  obtain ⟨first, rest, rfl, hfirst, -⟩ := hname
  intro h
  have hdot : first = '.' := (List.cons.inj h).1
  rw [hdot] at hfirst
  exact absurd hfirst (by decide)

theorem IsApart.parentName_not_mem (hplace : place.IsApart) (hname : IsSpelled isDotted name) :
    Disk.parentName ∉ (place.pathOf name).names := by
  rw [pathOf_eq hplace.extension hname]
  intro h
  rcases List.mem_append.mp h with h | h
  · exact hplace.directory h
  · exact append_ne_parentName hname _ (List.mem_singleton.mp h).symm

theorem IsApart.not_isSuffix (hplace : place.IsApart) (name : List Char) :
    ¬ sourceEnding <:+ name ++ place.dottedExtension := by
  intro hending
  have hswift := isSuffix_of_dotted_isSuffix (by decide) hending
  exact hplace.ending (hswift.trans (List.dropWhile_suffix _))

theorem path_of_scriptFile {cases : List ResolvedCase} {file : ScriptFile}
    (h : place.scriptFile name cases = .ok file) : file.path = place.pathOf name := by
  unfold scriptFile at h
  cases htext : scriptText name cases with
  | error error => simp [htext, Except.map] at h
  | ok text =>
    rw [htext] at h
    obtain rfl := Except.ok.inj h
    rfl

end ScriptPlace

def Disk.IsScriptPlace (disk : Disk) (directory : Path) (place : Place) : Prop :=
  ∃ name, place = disk.placeOf directory ++ [name] ∧ ¬ sourceEnding <:+ name

theorem Disk.isScriptPlace_congr {disk other : Disk} (hhome : other.home = disk.home)
    (directory : Path) : other.IsScriptPlace directory = disk.IsScriptPlace directory := by
  unfold IsScriptPlace
  rw [placeOf_congr hhome]

theorem ScriptPlace.IsApart.isScriptPlace {place : ScriptPlace} (hplace : place.IsApart)
    {name : List Char} (hname : IsSpelled isDotted name) (disk : Disk) :
    disk.IsScriptPlace place.directory (disk.placeOf (place.pathOf name)) := by
  refine ⟨name ++ place.dottedExtension, ?_, hplace.not_isSuffix name⟩
  rw [pathOf_eq hplace.extension hname, Disk.placeOf_below]

namespace Step

variable {α β : Type}

theorem report_disk (d : Diagnostic) (session : Session) :
    ((report d).after session).disk = session.disk := by
  rw [after, report_run]
  cases session.report.add d with
  | mk outcome report => cases outcome <;> rfl

theorem bind_disk {step : Step α} {next : α → Step β}
    (hnext : ∀ value session, ((next value).after session).disk = session.disk)
    (session : Session) : ((step >>= next).after session).disk = (step.after session).disk := by
  cases houtcome : step.outcome session with
  | error error => rw [after_bind_error houtcome]
  | ok value => rw [after_bind houtcome, hnext]

theorem write_disk (file : ScriptFile) (session : Session) :
    ((write file).after session).disk =
      (session.disk.store file.path (Utf8.encode file.contents)).2 := by
  have hrun := write_run file session
  cases hstore : session.disk.store file.path (Utf8.encode file.contents) with
  | mk outcome disk =>
    rw [hstore] at hrun
    cases outcome with
    | ok _ =>
      rw [after, hrun]
      rfl
    | error error =>
      cases error with
      | nullInPath =>
        rw [after, hrun]
        rfl
      | file error =>
        have hafter : (write file).after session =
            ((do report (unwritten file.path error); return false : Step Bool)).after
              { session with disk := disk } := congrArg Prod.snd hrun
        rw [hafter, bind_disk fun _ _ => rfl, report_disk]

variable {settings : Settings}

theorem keep_disk (settings : Settings) (name : List Char) (file : ScriptFile)
    (session : Session) :
    ((keep settings name file).after session).disk =
      if settings.dryRun then session.disk
      else (session.disk.store file.path (Utf8.encode file.contents)).2 := by
  cases hdry : settings.dryRun with
  | true =>
    rw [after, keep_run_dry hdry]
    rfl
  | false =>
    have hnote (written : Bool) (session : Session) :
        ((do
          if written then
            modify fun session => { session with written := session.written ++ [file.path] } :
              Step Unit).after session).disk = session.disk := by
      cases written <;> rfl
    rw [after, keep_run_wet hdry]
    exact (bind_disk hnote _).trans (write_disk file (keepScript session name file))

end Step

end EnumExport
