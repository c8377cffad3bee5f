import EnumExport.Proofs.Generation.Steps
import EnumExport.Proofs.Text.Encoding

namespace EnumExport

namespace Disk

variable {made written : Place → Prop} {disk before after : Disk} {path : Path}

theorem Alters.file_iff (h : Alters made written before after) {place : Place}
    (hplain : ¬ written place) (bytes : List UInt8) :
    after.entryAt place = some (.file bytes) ↔ before.entryAt place = some (.file bytes) := by
  constructor
  · intro hafter
    have hbecomes := h.becomes place
    rw [hafter] at hbecomes
    generalize before.entryAt place = entry at hbecomes
    cases hbecomes with
    | kept => rfl
    | written hwritten _ => exact absurd hwritten hplain
  · exact h.grows.file place bytes hplain

theorem Alters.of_directory (h : Alters made written before after) {place : Place}
    (hafter : after.entryAt place = some .directory) :
    before.entryAt place = some .directory ∨ before.entryAt place = none ∧ made place := by
  have hbecomes := h.becomes place
  rw [hafter] at hbecomes
  generalize before.entryAt place = entry at hbecomes ⊢
  cases hbecomes with
  | kept => exact Or.inl rfl
  | made hmade => exact Or.inr ⟨rfl, hmade⟩

theorem alters_store_of_not_opened {bytes : List UInt8} (h : disk.stores? path ≠ some true) :
    Alters (disk.IsOnWay path.parent) (fun _ => False) disk (disk.store path bytes).2 := by
  rw [store_disk, if_neg h]
  exact alters_makeDirectories disk path.parent

/-- No file is touched but the one at a path, and that only if it is opened. The only directories
that are new are on the way to it. -/
structure SparesAllBut (path : Path) (opened : Bool) (before after : Disk) : Prop where
  home : after.home = before.home
  sizeLimit : after.sizeLimit = before.sizeLimit
  file_iff : ∀ place bytes, (opened = true → place ≠ before.destination path) →
    (after.entryAt place = some (.file bytes) ↔ before.entryAt place = some (.file bytes))
  directory_stays : ∀ place, before.entryAt place = some .directory →
    after.entryAt place = some .directory
  directory_new : ∀ place, after.entryAt place = some .directory →
    before.entryAt place ≠ some .directory →
      before.entryAt place = none ∧ before.IsOnWay path.parent place

theorem Alters.sparesAllBut {opened : Bool}
    (h : Alters (before.IsOnWay path.parent)
      (fun place => opened = true ∧ place = before.destination path) before after) :
    SparesAllBut path opened before after := by
  constructor
  · exact h.home
  · exact h.sizeLimit
  · intro place bytes hplace
    exact h.file_iff (fun ⟨hopened, hdestination⟩ => hplace hopened hdestination) bytes
  · exact h.grows.directory
  · intro place hafter hbefore
    exact (h.of_directory hafter).resolve_left hbefore

theorem sparesAllBut_of_opened (disk : Disk) (path : Path) (bytes : List UInt8) :
    SparesAllBut path true disk (disk.store path bytes).2 := by
  apply Alters.sparesAllBut
  exact (alters_store disk path bytes).mono (fun _ => id) fun place hplace => ⟨rfl, hplace⟩

theorem sparesAllBut_of_not_opened {bytes : List UInt8} (h : disk.stores? path ≠ some true) :
    SparesAllBut path false disk (disk.store path bytes).2 := by
  apply Alters.sparesAllBut
  exact (alters_store_of_not_opened h).mono (fun _ => id) fun _ => False.elim

structure IsCut (path : Path) (bytes : List UInt8) (before after : Disk) : Prop where
  spares : SparesAllBut path true before after
  read : ∃ limit, before.sizeLimit = some limit ∧ limit < bytes.length ∧
    after.read path = .ok (bytes.take limit)

theorem spares_or_isCut_of_error {bytes : List UInt8} {error : AccessError}
    (h : disk.store path bytes = (.error error, after)) :
    SparesAllBut path false disk after ∨ IsCut path bytes disk after := by
  obtain rfl : (disk.store path bytes).2 = after := congrArg Prod.snd h
  by_cases hopened : disk.stores? path = some true
  · exact .inr ⟨sparesAllBut_of_opened disk path bytes, read_of_store_error hopened h⟩
  · exact .inl (sparesAllBut_of_not_opened hopened)

end Disk

namespace Step

/-- Writing to a path without null characters is never interrupted. Either the file holds its
contents afterwards and nothing is reported, or one warning at the path is recorded. Then every file
is as it was, unless the contents are more than the file can hold. -/
theorem write_spares_files {file : ScriptFile} (hnull : Disk.hasNull file.path = false)
    (session : Session) :
    ∃ written, (write file).outcome session = .ok written ∧
      let after := (write file).after session
      (written = true → Disk.SparesAllBut file.path true session.disk after.disk ∧
        after.disk.read file.path = .ok file.contents.utf8Encode.data.toList ∧
          after.report = session.report) ∧
      (written = false →
        (Disk.SparesAllBut file.path false session.disk after.disk ∨
          Disk.IsCut file.path file.contents.utf8Encode.data.toList session.disk after.disk) ∧
        ∃ warning : Diagnostic, warning.severity = .warning ∧
          warning.location = file.path.text ∧
            after.report.diagnostics = session.report.diagnostics ++ [warning]) := by
  obtain ⟨written, houtcome, hwrites⟩ := write_spec session (Disk.stores?_ne_none hnull)
  refine ⟨written, houtcome, ?_⟩
  generalize (write file).after session = after at hwrites
  cases hwrites with
  | written hstore hread =>
    have hspares := Disk.sparesAllBut_of_opened session.disk file.path file.bytes
    rw [hstore] at hspares
    exact ⟨fun _ => ⟨hspares, hread, rfl⟩, by simp⟩
  | failed hstore hrecords =>
    have hdisk := Disk.spares_or_isCut_of_error hstore
    obtain ⟨console, rfl⟩ := hrecords
    refine ⟨by simp, fun _ => ⟨hdisk, ?_⟩⟩
    exact ⟨unwritten file.path _, rfl, rfl, rfl⟩

theorem write_spares_files_blocked :
    let disk : Disk := { entries := [(["a.gd".toList], .file []), (["b".toList], .directory)] }
    let file : ScriptFile := ⟨Path.ofText "c/../b".toList, "x".toList⟩
    let session : Session := { disk := disk }
    let after := (write file).after session
    Disk.hasNull file.path = false ∧ (write file).outcome session = .ok false ∧
      after.disk.entryAt ["c".toList] = some .directory ∧
      Disk.SparesAllBut file.path false disk after.disk ∧
      ∃ warning : Diagnostic, warning.severity = .warning ∧
        warning.location = file.path.text ∧ after.report.diagnostics = [warning] := by
  intro disk file session after
  have hnull : Disk.hasNull file.path = false := by decide
  have houtcome : (write file).outcome session = .ok false := by decide +kernel
  obtain ⟨written, hwritten, -, hfailed⟩ := write_spares_files hnull session
  obtain rfl : false = written := Except.ok.inj (houtcome.symm.trans hwritten)
  obtain ⟨hspares | hcut, hwarns⟩ := hfailed rfl
  · exact ⟨hnull, houtcome, by decide +kernel, hspares, hwarns⟩
  · obtain ⟨limit, hlimit, -⟩ := hcut.read
    cases hlimit

theorem write_spares_files_emptied :
    let disk : Disk := { entries := [(["a.gd".toList], .file [0])], sizeLimit := some 0 }
    let file : ScriptFile := ⟨Path.ofText "a.gd".toList, "x".toList⟩
    let session : Session := { disk := disk }
    Disk.hasNull file.path = false ∧ (write file).outcome session = .ok false ∧
      ¬ Disk.SparesAllBut file.path false disk ((write file).after session).disk := by
  intro disk file session
  refine ⟨by decide, by decide +kernel, fun hspares => ?_⟩
  have hkept := (hspares.file_iff ["a.gd".toList] [0] (by decide)).mpr rfl
  revert hkept
  decide +kernel

end Step

end EnumExport
