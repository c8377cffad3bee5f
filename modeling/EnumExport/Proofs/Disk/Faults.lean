import EnumExport.Generation.SourceFiles
import EnumExport.Proofs.Lists

namespace EnumExport

namespace Disk

def IsSearchFault (fault : FileFault) : Prop :=
  fault = .notFound ∨ fault = .notDirectory ∨ fault = .nameTooLong

theorem notFound_or_notDirectory_of_inDirectory {disk : Disk} {place : Place} {fault : FileFault}
    (h : disk.inDirectory place = .error fault) : fault = .notFound ∨ fault = .notDirectory := by
  unfold inDirectory at h
  split at h
  · exact Or.inl (Except.error.inj h).symm
  · exact Or.inr (Except.error.inj h).symm
  · simp at h

theorem isSearchFault_of_walk {disk : Disk} {place : Place} {names : List (List Char)}
    {fault : FileFault} (h : disk.walk place names = .error fault) : IsSearchFault fault := by
  induction names generalizing place with
  | nil => simp [walk] at h
  | cons name names ih =>
    rw [walk] at h
    split at h
    · rename_i fault' hin
      obtain rfl : fault' = fault := by simpa using h
      rcases notFound_or_notDirectory_of_inDirectory hin with rfl | rfl
      · exact Or.inl rfl
      · exact Or.inr (Or.inl rfl)
    · split at h
      · exact ih h
      · split at h
        · exact Or.inr (Or.inr (by simpa [eq_comm] using h))
        · exact ih h

theorem isSearchFault_of_locate {disk : Disk} {path : Path} {fault : FileFault}
    (h : disk.locate path = .error fault) : IsSearchFault fault := by
  unfold locate at h
  split at h
  · exact Or.inr (Or.inr (by simpa [eq_comm] using h))
  · exact isSearchFault_of_walk h

theorem isSearchFault_of_find {disk : Disk} {path : Path} {fault : FileFault}
    (h : disk.find path = .error fault) : IsSearchFault fault := by
  unfold find at h
  cases hl : disk.locate path with
  | error other =>
    obtain rfl : other = fault := by simpa [hl, Except.bind] using h
    exact isSearchFault_of_locate hl
  | ok place =>
    rw [hl] at h
    simp only [Except.bind] at h
    split at h
    · exact Or.inl (by simpa [eq_comm] using h)
    · simp at h

theorem probe_eq_error_iff {disk : Disk} {path : Path} (hnull : hasNull path = false)
    {error : AccessError} :
    disk.probe path = .error error ↔
      disk.find path = .error .nameTooLong ∧ error = .file ⟨.nameTooLong, some path⟩ := by
  rw [probe, hnull, if_neg Bool.false_ne_true]
  cases hf : disk.find path with
  | ok entry => simp
  | error fault =>
    rcases isSearchFault_of_find hf with rfl | rfl | rfl
    · simp
    · simp
    · simp [fail, eq_comm]

theorem isDirectory_eq_error_iff {disk : Disk} {path : Path} (hnull : hasNull path = false)
    {error : AccessError} :
    disk.isDirectory path = .error error ↔
      disk.find path = .error .nameTooLong ∧ error = .file ⟨.nameTooLong, some path⟩ := by
  rw [← probe_eq_error_iff hnull, isDirectory]
  cases disk.probe path <;> simp [Except.map]

theorem find_of_probe {disk : Disk} {path : Path} {entry : Entry}
    (h : disk.probe path = .ok (some entry)) : disk.find path = .ok entry := by
  unfold probe at h
  split at h
  · simp at h
  · split at h
    · rename_i hfind
      rw [hfind, Option.some.inj (Except.ok.inj h)]
    · simp at h
    · simp at h
    · simp [fail] at h

theorem find_of_isDirectory {disk : Disk} {path : Path} (h : disk.isDirectory path = .ok true) :
    disk.find path = .ok .directory := by
  apply find_of_probe
  unfold isDirectory at h
  cases hprobe : disk.probe path with
  | error error => simp [hprobe, Except.map] at h
  | ok found => simpa [hprobe, Except.map] using h

theorem exists_locate_of_isDirectory {disk : Disk} {path : Path}
    (h : disk.isDirectory path = .ok true) : ∃ place, disk.locate path = .ok place := by
  have hfind := find_of_isDirectory h
  cases hplace : disk.locate path with
  | error fault => simp [find, hplace, Except.bind] at hfind
  | ok place => exact ⟨place, rfl⟩

theorem filesOf_of_directory {disk : Disk} {path : Path} {place : Place}
    (h : disk.isDirectory path = .ok true) (hplace : disk.locate path = .ok place) :
    disk.filesOf path = (disk.lookBelow path place).map fun _ =>
      (disk.searchBelow sourceEnding place).map path.below := by
  simp [filesOf, h, hplace, Except.bind]

theorem filesOf_of_lookBelow {disk : Disk} {path : Path} {place : Place}
    (h : disk.isDirectory path = .ok true) (hplace : disk.locate path = .ok place)
    (hlook : disk.lookBelow path place = .ok ()) :
    disk.filesOf path = .ok ((disk.searchBelow sourceEnding place).map path.below) := by
  rw [filesOf_of_directory h hplace, hlook]
  rfl

theorem filesOf_of_other {disk : Disk} {path : Path} (h : disk.isDirectory path = .ok false) :
    disk.filesOf path = .ok [path] := by
  simp [filesOf, h, Except.bind]

theorem filesOf_cases {disk : Disk} {path : Path} {files : List Path}
    (h : disk.filesOf path = .ok files) :
    disk.isDirectory path = .ok false ∧ files = [path] ∨
      disk.isDirectory path = .ok true ∧ ∃ place, disk.locate path = .ok place ∧
        files = (disk.searchBelow sourceEnding place).map path.below := by
  cases hthere : disk.isDirectory path with
  | error error => simp [filesOf, hthere, Except.bind] at h
  | ok there =>
    cases there with
    | false => exact Or.inl ⟨rfl, Except.ok.inj (h.symm.trans (filesOf_of_other hthere))⟩
    | true =>
      obtain ⟨place, hplace⟩ := exists_locate_of_isDirectory hthere
      rw [filesOf_of_directory hthere hplace] at h
      obtain ⟨_, -, hfiles⟩ := exists_of_map_ok h
      exact Or.inr ⟨rfl, place, hplace, hfiles.symm⟩

def IsNullFree (disk : Disk) : Prop :=
  ∀ placed ∈ disk.entries, ∀ name ∈ placed.1, Char.ofNat 0 ∉ name

theorem hasNull_eq_false_iff {path : Path} :
    hasNull path = false ↔ ∀ name ∈ path.names, Char.ofNat 0 ∉ name := by
  simp [hasNull]

theorem eq_append_of_relative? {place other names : Place}
    (h : relative? place other = some names) : other = place ++ names := by
  induction place generalizing other with
  | nil => simpa [relative?] using h
  | cons name place ih =>
    cases other with
    | nil => simp [relative?] at h
    | cons name' other =>
      rw [relative?] at h
      split at h
      · rename_i hname
        rw [hname, ih h, List.cons_append]
      · simp at h

theorem relative?_append (place names : Place) : relative? place (place ++ names) = some names := by
  induction place with
  | nil => rfl
  | cons name place ih => rw [List.cons_append, relative?, if_pos rfl, ih]

theorem mem_namesBelow_iff {disk : Disk} {place names : Place} :
    names ∈ disk.namesBelow place ↔ ∃ entry, (place ++ names, entry) ∈ disk.entries := by
  rw [namesBelow, List.mem_filterMap]
  constructor
  · rintro ⟨⟨other, entry⟩, hmem, hrelative⟩
    rw [eq_append_of_relative? hrelative] at hmem
    exact ⟨entry, hmem⟩
  · rintro ⟨entry, hmem⟩
    exact ⟨_, hmem, relative?_append place names⟩

theorem exists_of_mem_searchBelow {disk : Disk} {ending : List Char} {place names : Place}
    (h : names ∈ disk.searchBelow ending place) :
    (∃ entry, (place ++ names, entry) ∈ disk.entries) ∧ hasEnding ending names = true := by
  rw [searchBelow, List.mem_mergeSort] at h
  obtain ⟨hbelow, hending⟩ := List.mem_filter.mp h
  exact ⟨mem_namesBelow_iff.mp hbelow, hending⟩

theorem not_mem_of_mem_searchBelow {disk : Disk} (hdisk : disk.IsNullFree)
    {ending : List Char} {place names : Place} (h : names ∈ disk.searchBelow ending place) :
    ∀ name ∈ names, Char.ofNat 0 ∉ name := by
  obtain ⟨⟨entry, hmem⟩, -⟩ := exists_of_mem_searchBelow h
  intro name hname
  exact hdisk _ hmem name (List.mem_append_right _ hname)

theorem mem_filesOf {disk : Disk} {path file : Path} {files : List Path}
    (h : disk.filesOf path = .ok files) (hfile : file ∈ files) :
    disk.isDirectory path = .ok false ∧ file = path ∨
      ∃ place names, disk.locate path = .ok place ∧ names ∈ disk.searchBelow sourceEnding place ∧
        file = path.below names := by
  rcases filesOf_cases h with ⟨hother, rfl⟩ | ⟨-, place, hplace, rfl⟩
  · exact Or.inl ⟨hother, List.mem_singleton.mp hfile⟩
  · obtain ⟨names, hnames, rfl⟩ := List.mem_map.mp hfile
    exact Or.inr ⟨place, names, hplace, hnames, rfl⟩

theorem exists_filesOf_of_mem_sourceFiles {disk : Disk} {paths files : List Path} {file : Path}
    (h : disk.sourceFiles paths = .ok files) (hfile : file ∈ files) :
    ∃ path ∈ paths, ∃ found, disk.filesOf path = .ok found ∧ file ∈ found := by
  unfold sourceFiles at h
  cases hm : paths.mapM disk.filesOf with
  | error error => simp [hm, Except.map] at h
  | ok lists =>
    obtain rfl : lists.flatten = files := by simpa [hm, Except.map] using h
    obtain ⟨found, hfound, hfile⟩ := List.mem_flatten.mp hfile
    obtain ⟨path, hpath, hof⟩ := exists_mem_of_mem_mapM hm hfound
    exact ⟨path, hpath, found, hof, hfile⟩

theorem hasNull_of_mem_filesOf {disk : Disk} (hdisk : disk.IsNullFree) {path file : Path}
    (hnull : hasNull path = false) {files : List Path} (h : disk.filesOf path = .ok files)
    (hfile : file ∈ files) : hasNull file = false := by
  rcases mem_filesOf h hfile with ⟨-, rfl⟩ | ⟨place, names, -, hnames, rfl⟩
  · exact hnull
  · rw [hasNull_eq_false_iff] at hnull ⊢
    intro name hname
    rcases List.mem_append.mp hname with hname | hname
    · exact hnull name hname
    · exact not_mem_of_mem_searchBelow hdisk hnames name hname

theorem hasNull_of_mem_sourceFiles {disk : Disk} (hdisk : disk.IsNullFree) {paths files : List Path}
    (hnull : ∀ path ∈ paths, hasNull path = false) (h : disk.sourceFiles paths = .ok files) :
    ∀ file ∈ files, hasNull file = false := by
  intro file hfile
  obtain ⟨path, hpath, found, hfound, hmem⟩ := exists_filesOf_of_mem_sourceFiles h hfile
  exact hasNull_of_mem_filesOf hdisk (hnull path hpath) hfound hmem

def IsFileError {α : Type} (outcome : Except AccessError α) : Prop :=
  ∀ error, outcome = .error error → ∃ fileError, error = .file fileError

theorem isFileError_fail {α : Type} (fault : FileFault) (path : Path) :
    IsFileError (fail fault path : Except AccessError α) := by
  intro error h
  exact ⟨_, (Except.error.inj h).symm⟩

theorem isFileError_ok {α : Type} (value : α) : IsFileError (.ok value) := by
  intro error h
  simp at h

theorem isFileError_read {disk : Disk} {path : Path} (hnull : hasNull path = false) :
    IsFileError (disk.read path) := by
  rw [read, hnull, if_neg Bool.false_ne_true]
  split
  · exact isFileError_ok _
  · exact isFileError_fail _ _
  · exact isFileError_fail _ _

theorem isFileError_isDirectory {disk : Disk} {path : Path} (hnull : hasNull path = false) :
    IsFileError (disk.isDirectory path) := by
  intro error h
  exact ⟨_, ((isDirectory_eq_error_iff hnull).mp h).2⟩

theorem isFileError_settle {disk : Disk} {path : Path} (hnull : hasNull path = false)
    (fault : FileFault) : IsFileError (disk.settle path fault) := by
  have hdirectory := @isFileError_isDirectory disk path hnull
  rw [settle]
  cases hd : disk.isDirectory path with
  | error error =>
    rw [hd] at hdirectory
    exact fun other h => hdirectory other (by simpa [Except.bind] using h)
  | ok there =>
    simp only [Except.bind]
    split
    · exact isFileError_ok ()
    · exact isFileError_fail _ _

theorem isFileError_makeLast {disk : Disk} {path : Path} (hnull : hasNull path = false) :
    IsFileError (disk.makeLast path).1 := by
  rw [makeLast]
  split
  · exact isFileError_ok ()
  · exact isFileError_fail _ _
  · exact isFileError_settle hnull _

theorem hasNull_parent {path : Path} (h : hasNull path = false) : hasNull path.parent = false := by
  rw [hasNull_eq_false_iff] at h ⊢
  exact fun name hname => h name ((List.dropLast_sublist _).subset hname)

theorem isFileError_makeDirectoriesAt {disk : Disk} {path : Path} (hnull : hasNull path = false)
    (above : Nat) : IsFileError (disk.makeDirectoriesAt path above).1 := by
  induction above generalizing disk path with
  | zero => exact isFileError_makeLast hnull
  | succ above ih =>
    rw [makeDirectoriesAt]
    split
    · exact isFileError_ok ()
    · have habove := @ih disk path.parent (hasNull_parent hnull)
      split
      · exact isFileError_makeLast hnull
      · rename_i error disk' hmade
        rw [hmade] at habove
        exact habove
    · exact isFileError_settle hnull _

theorem isFileError_writeFile {disk : Disk} {path : Path} (hnull : hasNull path = false)
    (bytes : List UInt8) : IsFileError (disk.writeFile path bytes).1 := by
  rw [writeFile, hnull, if_neg Bool.false_ne_true]
  split
  · exact isFileError_fail _ _
  · split
    · exact isFileError_fail _ _
    · split
      · exact isFileError_fail _ _
      · dsimp only
        split
        · exact isFileError_ok ()
        · exact fun error h => ⟨_, (Except.error.inj h).symm⟩

theorem isFileError_store {disk : Disk} {path : Path} (hnull : hasNull path = false)
    (bytes : List UInt8) : IsFileError (disk.store path bytes).1 := by
  have hmade := @isFileError_makeDirectoriesAt disk path.parent (hasNull_parent hnull)
    path.parent.names.length
  rw [store, makeDirectories, hasNull_parent hnull, if_neg Bool.false_ne_true]
  split
  · rename_i error disk' h
    rw [h] at hmade
    exact hmade
  · exact isFileError_writeFile hnull bytes

theorem ne_nil_of_entryAt {disk : Disk} {place : Place}
    (h : disk.entryAt place ≠ some .directory) : place ≠ [] := by
  rintro rfl
  exact h (by simp [entryAt])

theorem inDirectory_eq_ok_iff {disk : Disk} {place : Place} :
    disk.inDirectory place = .ok () ↔ disk.entryAt place = some .directory := by
  unfold inDirectory
  split <;> simp_all

theorem walk_mono {disk other : Disk} {place start : Place} {names : List (List Char)}
    (hkept : ∀ place, disk.entryAt place = some .directory → other.entryAt place = some .directory)
    (h : disk.walk start names = .ok place) : other.walk start names = .ok place := by
  induction names generalizing start with
  | nil => exact h
  | cons name names ih =>
    rw [walk] at h ⊢
    cases hin : disk.inDirectory start with
    | error fault => simp [hin] at h
    | ok _ =>
      have hthere := hkept start (inDirectory_eq_ok_iff.mp hin)
      rw [hin] at h
      rw [inDirectory_eq_ok_iff.mpr hthere]
      simp only at h ⊢
      split
      · rename_i hparent
        rw [if_pos hparent] at h
        exact ih h
      · rename_i hparent
        rw [if_neg hparent] at h
        split
        · rename_i hlong
          simp [hlong] at h
        · rename_i hlong
          rw [if_neg hlong] at h
          exact ih h

end Disk

end EnumExport
