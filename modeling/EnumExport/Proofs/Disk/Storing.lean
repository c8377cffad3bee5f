import EnumExport.Proofs.Disk.Settling
import EnumExport.Script.ScriptFile

/-!
Storing files in one directory: whether a file can be opened there is decided before the first one
is. So neither their order matters, as long as different files have different names, nor that they
are stored once more.
-/

namespace EnumExport

namespace Disk

section

variable {disk other : Disk} {bytes : List UInt8}

theorem fits_nil (disk : Disk) : disk.fits [] = true := by
  cases hlimit : disk.sizeLimit <;> simp [fits, hlimit]

theorem fits_eq_false_iff :
    disk.fits bytes = false ↔ ∃ limit, disk.sizeLimit = some limit ∧ limit < bytes.length := by
  cases hlimit : disk.sizeLimit <;> simp [fits, hlimit]

theorem kept_of_fits (h : disk.fits bytes = true) : disk.kept bytes = bytes := by
  unfold fits at h
  unfold kept
  cases hlimit : disk.sizeLimit with
  | none => rfl
  | some limit => exact List.take_of_length_le (by simpa [hlimit] using h)

theorem kept_of_limit {limit : Nat} (h : disk.sizeLimit = some limit) (bytes : List UInt8) :
    disk.kept bytes = bytes.take limit := by
  rw [kept, h]

theorem fits_congr (h : other.sizeLimit = disk.sizeLimit) (bytes : List UInt8) :
    other.fits bytes = disk.fits bytes := by
  rw [fits, fits, h]

theorem kept_congr (h : other.sizeLimit = disk.sizeLimit) (bytes : List UInt8) :
    other.kept bytes = disk.kept bytes := by
  rw [kept, kept, h]

end

/-- Whether a file can be opened for writing at a path. To write nothing to it cannot fail. -/
def opens? (disk : Disk) (path : Path) : Option Bool := success? (disk.writeFile path []).1

def stores? (disk : Disk) (path : Path) : Option Bool := success? (disk.store path []).1

section

variable {disk other made : Disk} {path directory : Path} {name : List Char}

theorem success?_writeFile (disk : Disk) (path : Path) (bytes : List UInt8) :
    success? (disk.writeFile path bytes).1 = (disk.opens? path).map (· && disk.fits bytes) := by
  unfold opens? writeFile
  split
  · rfl
  · split
    · rfl
    · split
      · rfl
      · split
        · rfl
        · rw [if_pos (fits_nil disk)]
          cases disk.fits bytes <;> rfl

theorem writeFile_disk (disk : Disk) (path : Path) (bytes : List UInt8) :
    (disk.writeFile path bytes).2 =
      if disk.opens? path = some true then
        disk.set (disk.destination path) (.file (disk.kept bytes))
      else disk := by
  unfold opens? writeFile
  split
  · rfl
  · split
    · rfl
    · rename_i hlocate
      obtain rfl := eq_destination_of_locate hlocate
      split
      · rfl
      · split
        · rfl
        · simp only [fits_nil, if_true, success?]

theorem locate_of_opens? (h : disk.opens? path = some true) :
    hasNull path = false ∧ disk.locate path = .ok (disk.destination path) := by
  unfold opens? writeFile at h
  split at h
  · simp [success?] at h
  · rename_i hnull
    split at h
    · simp [success?, fail] at h
    · rename_i hlocate
      rw [← eq_destination_of_locate hlocate]
      exact ⟨eq_false_of_ne_true hnull, hlocate⟩

theorem entryAt_of_opens? (h : disk.opens? path = some true) :
    disk.entryAt (disk.destination path) ≠ some .directory := by
  intro hdirectory
  obtain ⟨hnull, hlocate⟩ := locate_of_opens? h
  have hfails : disk.opens? path = some false := by
    simp [opens?, writeFile, hnull, hlocate, hdirectory, success?, fail]
  rw [h] at hfails
  cases hfails

theorem makeDirectories_home (disk : Disk) (path : Path) :
    (disk.makeDirectories path).2.home = disk.home :=
  (@grows_makeDirectories (fun _ => False) disk path).home

theorem makeDirectories_sizeLimit (disk : Disk) (path : Path) :
    (disk.makeDirectories path).2.sizeLimit = disk.sizeLimit :=
  (@grows_makeDirectories (fun _ => False) disk path).sizeLimit

theorem store_of_made (h : disk.makeDirectories path.parent = (.ok (), made)) (bytes : List UInt8) :
    disk.store path bytes = made.writeFile path bytes := by
  rw [store, h]

theorem store_of_not_made {error : AccessError}
    (h : disk.makeDirectories path.parent = (.error error, made)) (bytes : List UInt8) :
    disk.store path bytes = (.error error, made) := by
  rw [store, h]

theorem success?_error_ne (error : AccessError) : success? (.error error) ≠ some true := by
  rw [Ne, success?_eq_true_iff]
  simp

theorem stores?_eq (disk : Disk) (path : Path) :
    disk.stores? path =
      if success? (disk.makeDirectories path.parent).1 = some true then
        (disk.makeDirectories path.parent).2.opens? path
      else success? (disk.makeDirectories path.parent).1 := by
  cases hmade : disk.makeDirectories path.parent with
  | mk outcome made =>
    cases outcome with
    | ok _ => rw [stores?, store_of_made hmade, if_pos (success?_eq_true_iff.mpr rfl), opens?]
    | error error => rw [stores?, store_of_not_made hmade, if_neg (success?_error_ne error)]

theorem success?_store (disk : Disk) (path : Path) (bytes : List UInt8) :
    success? (disk.store path bytes).1 = (disk.stores? path).map (· && disk.fits bytes) := by
  have hlimit := makeDirectories_sizeLimit disk path.parent
  rw [stores?_eq]
  cases hmade : disk.makeDirectories path.parent with
  | mk outcome made =>
    rw [hmade] at hlimit
    cases outcome with
    | ok _ =>
      rw [store_of_made hmade, if_pos (success?_eq_true_iff.mpr rfl), success?_writeFile,
        fits_congr hlimit]
    | error error =>
      rw [store_of_not_made hmade, if_neg (success?_error_ne error)]
      cases error <;> rfl

theorem store_eq_ok_iff {bytes : List UInt8} :
    (disk.store path bytes).1 = .ok () ↔
      disk.stores? path = some true ∧ disk.fits bytes = true := by
  rw [← success?_eq_true_iff, success?_store]
  rcases disk.stores? path with _ | opened
  · simp
  · simp

theorem success?_store_eq_none_iff {bytes : List UInt8} :
    success? (disk.store path bytes).1 = none ↔ disk.stores? path = none := by
  rw [success?_store, Option.map_eq_none_iff]

theorem store_disk (disk : Disk) (path : Path) (bytes : List UInt8) :
    (disk.store path bytes).2 =
      if disk.stores? path = some true then
        (disk.makeDirectories path.parent).2.set
          ((disk.makeDirectories path.parent).2.destination path) (.file (disk.kept bytes))
      else (disk.makeDirectories path.parent).2 := by
  have hlimit := makeDirectories_sizeLimit disk path.parent
  rw [stores?_eq]
  cases hmade : disk.makeDirectories path.parent with
  | mk outcome made =>
    rw [hmade] at hlimit
    cases outcome with
    | ok _ =>
      rw [store_of_made hmade, if_pos (success?_eq_true_iff.mpr rfl), writeFile_disk,
        kept_congr hlimit]
    | error error =>
      rw [store_of_not_made hmade, if_neg (success?_error_ne error),
        if_neg (success?_error_ne error)]

theorem stores?_ne_none (hnull : hasNull path = false) : disk.stores? path ≠ none := by
  have hfile := @isFileError_store disk path hnull []
  unfold stores?
  cases hstore : (disk.store path []).1 with
  | ok _ => simp [success?]
  | error error =>
    obtain ⟨fileError, rfl⟩ := hfile error hstore
    simp [success?]

theorem parent_below (directory : Path) (name : List Char) :
    (directory.below [name]).parent = directory := by
  simp [Path.below, Path.parent]

theorem not_mem_below (hnames : parentName ∉ directory.names) (hname : name ≠ parentName) :
    parentName ∉ (directory.below [name]).names := by
  simp [Path.below, hnames, Ne.symm hname]

theorem stores?_of_read (hname : name ≠ parentName) {old : List UInt8}
    (h : disk.read (directory.below [name]) = .ok old) :
    disk.stores? (directory.below [name]) = some true := by
  obtain ⟨hnull, place, hlocate, hentry⟩ := read_eq_ok_iff.mp h
  have hlast : (directory.below [name]).names.getLast? ≠ some parentName := by
    simpa [Path.below] using hname
  have hdirectory : disk.makeDirectories directory = (.ok (), disk) := by
    have hplain := hasNull_parent hnull
    rw [parent_below] at hplain
    rw [makeDirectories, hplain, if_neg Bool.false_ne_true]
    exact makeDirectoriesAt_of_directory hplain (find_directory_of_locate hlocate) _
  rw [stores?, store, parent_below, hdirectory]
  simp only [writeFile, hnull, Bool.false_eq_true, if_false, hlocate, if_neg hlast, hentry,
    fits_nil, if_true, success?]

theorem read_writeFile (h : disk.opens? path = some true) (bytes : List UInt8) :
    (disk.writeFile path bytes).2.read path = .ok (disk.kept bytes) := by
  have hgrows : Grows (disk.destination path = ·) disk (disk.writeFile path bytes).2 :=
    (@alters_writeFile (fun _ => False) _ disk path rfl bytes).grows
  have hroot := ne_nil_of_entryAt (entryAt_of_opens? h)
  obtain ⟨hnull, hlocate⟩ := locate_of_opens? h
  refine read_eq_ok_iff.mpr ⟨hnull, _, locate_of_grows hgrows hlocate, ?_⟩
  rw [writeFile_disk, if_pos h, entryAt_set _ _ hroot, if_pos rfl]

theorem read_store (h : disk.stores? path = some true) (bytes : List UInt8) :
    (disk.store path bytes).2.read path = .ok (disk.kept bytes) := by
  have hlimit := makeDirectories_sizeLimit disk path.parent
  rw [stores?_eq] at h
  cases hmade : disk.makeDirectories path.parent with
  | mk outcome made =>
    rw [hmade] at h hlimit
    cases outcome with
    | ok _ =>
      rw [if_pos (success?_eq_true_iff.mpr rfl)] at h
      rw [store_of_made hmade, read_writeFile h, kept_congr hlimit]
    | error error =>
      rw [if_neg (success?_error_ne error)] at h
      exact absurd h (success?_error_ne error)

theorem read_of_store_ok {bytes : List UInt8} (h : disk.store path bytes = (.ok (), made)) :
    made.read path = .ok bytes := by
  obtain ⟨hstores, hfits⟩ := store_eq_ok_iff.mp (congrArg Prod.fst h)
  have hread := read_store hstores bytes
  rwa [h, kept_of_fits hfits] at hread

theorem read_of_store_error {bytes : List UInt8} {error : AccessError}
    (hstores : disk.stores? path = some true) (h : disk.store path bytes = (.error error, made)) :
    ∃ limit, disk.sizeLimit = some limit ∧ limit < bytes.length ∧
      made.read path = .ok (bytes.take limit) := by
  have hfits : disk.fits bytes = false := by
    by_contra hfits
    have hok := store_eq_ok_iff.mpr ⟨hstores, eq_true_of_ne_false hfits⟩
    rw [h] at hok
    cases hok
  obtain ⟨limit, hlimit, hlong⟩ := fits_eq_false_iff.mp hfits
  have hread := read_store hstores bytes
  rw [h, kept_of_limit hlimit] at hread
  exact ⟨limit, hlimit, hlong, hread⟩

theorem read_store_of_ne (hname : name ≠ parentName) {second : List Char}
    (hsecond : second ≠ parentName) (hne : second ≠ name) {old : List UInt8}
    (h : disk.read (directory.below [second]) = .ok old) (bytes : List UInt8) :
    (disk.store (directory.below [name]) bytes).2.read (directory.below [second]) = .ok old := by
  have hgrows : Grows (disk.destination (directory.below [name]) = ·) disk
      (disk.store (directory.below [name]) bytes).2 := grows_store rfl bytes
  apply read_of_grows hgrows _ h
  rw [destination_below hname, destination_below hsecond]
  intro hplace
  exact hne (List.cons.inj (List.append_cancel_left hplace)).1.symm

/-- Nothing has happened but that files have been put right below a directory. -/
structure Fills (directory : Path) (before after : Disk) : Prop where
  home : after.home = before.home
  sizeLimit : after.sizeLimit = before.sizeLimit
  entryAt : ∀ place, after.entryAt place = before.entryAt place ∨
    (∃ name, place = before.placeOf directory ++ [name]) ∧
      before.entryAt place ≠ some .directory ∧ ∃ bytes, after.entryAt place = some (.file bytes)

theorem Fills.refl (directory : Path) (disk : Disk) : Fills directory disk disk :=
  ⟨rfl, rfl, fun _ => Or.inl rfl⟩

theorem Fills.isAlike (h : Fills directory disk other) :
    IsAlike (disk.placeOf directory) disk other := by
  refine ⟨h.home, fun front hfront => ?_⟩
  rcases h.entryAt front with hsame | ⟨⟨name, rfl⟩, -, -⟩
  · exact hsame
  · have hlength := hfront.length_le
    rw [List.length_append, List.length_singleton] at hlength
    omega

theorem Fills.directory_iff (h : Fills directory disk other) (place : Place) :
    other.entryAt place = some .directory ↔ disk.entryAt place = some .directory := by
  rcases h.entryAt place with hsame | ⟨-, hbefore, bytes, hafter⟩
  · rw [hsame]
  · simp [hbefore, hafter]

theorem Fills.locate_eq (hnames : parentName ∉ directory.names) (hname : name ≠ parentName)
    (h : Fills directory disk other) :
    other.locate (directory.below [name]) = disk.locate (directory.below [name]) := by
  have hbelow : (directory.below [name]).names = directory.names ++ [name] := rfl
  apply locate_congr h.home
  · rw [hbelow]
    simp [hnames, Ne.symm hname]
  · intro front back hsplit hback
    apply h.isAlike.entryAt
    apply (List.prefix_append_right_inj _).mpr
    rw [hbelow] at hsplit
    obtain ⟨init, last, rfl⟩ := (List.eq_nil_or_concat' back).resolve_left hback
    rw [← List.append_assoc] at hsplit
    rw [← (List.append_inj' hsplit rfl).1]
    exact List.prefix_append front init

theorem Fills.opens?_eq (hnames : parentName ∉ directory.names) (hname : name ≠ parentName)
    (h : Fills directory disk other) :
    other.opens? (directory.below [name]) = disk.opens? (directory.below [name]) := by
  unfold opens? writeFile
  rw [h.locate_eq hnames hname]
  split
  · rfl
  · split
    · rfl
    · rename_i place _
      split
      · rfl
      · have hdirectory := h.directory_iff place
        simp only [fits_nil, if_true]
        split <;> split <;> simp_all

theorem Fills.set (h : Fills directory disk other)
    (hplace : disk.entryAt (disk.placeOf directory ++ [name]) ≠ some .directory)
    (bytes : List UInt8) :
    Fills directory disk (other.set (disk.placeOf directory ++ [name]) (.file bytes)) := by
  have hroot : disk.placeOf directory ++ [name] ≠ [] := List.concat_ne_nil name _
  refine ⟨h.home, h.sizeLimit, fun place => ?_⟩
  rw [entryAt_set place _ hroot]
  split
  · rename_i hhere
    rw [← hhere]
    exact Or.inr ⟨⟨name, rfl⟩, hplace, bytes, rfl⟩
  · exact h.entryAt place

end

section

variable {disk other : Disk} {directory : Path} {name : List Char}

theorem makeDirectories_of_fills (hnames : parentName ∉ directory.names)
    (h : Fills directory (disk.makeDirectories directory).2 other) :
    (other.makeDirectories directory).2 = other ∧
      success? (other.makeDirectories directory).1 =
        success? (disk.makeDirectories directory).1 :=
  makeDirectories_again hnames rfl h.isAlike

theorem stores?_of_fills (hnames : parentName ∉ directory.names) (hname : name ≠ parentName)
    (h : Fills directory (disk.makeDirectories directory).2 other) :
    other.stores? (directory.below [name]) = disk.stores? (directory.below [name]) := by
  obtain ⟨hdisk, hsuccess⟩ := makeDirectories_of_fills hnames h
  rw [stores?_eq, stores?_eq, parent_below, hdisk, hsuccess, h.opens?_eq hnames hname]

theorem sizeLimit_of_fills (h : Fills directory (disk.makeDirectories directory).2 other) :
    other.sizeLimit = disk.sizeLimit :=
  h.sizeLimit.trans (makeDirectories_sizeLimit disk directory)

theorem store_of_fills (hnames : parentName ∉ directory.names) (hname : name ≠ parentName)
    (h : Fills directory (disk.makeDirectories directory).2 other) (bytes : List UInt8) :
    (other.store (directory.below [name]) bytes).2 =
      if disk.stores? (directory.below [name]) = some true then
        other.set (disk.placeOf (directory.below [name])) (.file (disk.kept bytes))
      else other := by
  have hhome : other.home = disk.home := h.home.trans (makeDirectories_home disk directory)
  have hstore := store_disk other (directory.below [name]) bytes
  rw [parent_below, (makeDirectories_of_fills hnames h).1,
    destination_eq_placeOf (not_mem_below hnames hname), placeOf_congr hhome,
    stores?_of_fills hnames hname h, kept_congr (sizeLimit_of_fills h)] at hstore
  exact hstore

theorem placeOf_of_fills (h : Fills directory (disk.makeDirectories directory).2 other)
    (path : Path) : other.placeOf path = disk.placeOf path :=
  placeOf_congr (h.home.trans (makeDirectories_home disk directory)) path

theorem fills_store (hnames : parentName ∉ directory.names) (hname : name ≠ parentName)
    (h : Fills directory (disk.makeDirectories directory).2 other) (bytes : List UInt8) :
    Fills directory (disk.makeDirectories directory).2
      (other.store (directory.below [name]) bytes).2 := by
  rw [store_of_fills hnames hname h]
  split
  · rename_i hstores
    have hmade := placeOf_of_fills (.refl directory (disk.makeDirectories directory).2)
    rw [← hmade, placeOf_below]
    apply h.set
    rw [stores?_eq, parent_below] at hstores
    split at hstores
    · have hentry := entryAt_of_opens? hstores
      rwa [destination_eq_placeOf (not_mem_below hnames hname), placeOf_below] at hentry
    · rename_i hsuccess
      exact absurd hstores hsuccess
  · exact h

end

def IsIn (directory path : Path) : Prop :=
  ∃ name, name ≠ parentName ∧ path = directory.below [name]

def storeAll (disk : Disk) (files : List ScriptFile) : Disk :=
  files.foldl (fun disk file => (disk.store file.path (Utf8.encode file.contents)).2) disk

def openable (disk : Disk) (files : List ScriptFile) : List ScriptFile :=
  files.filter fun file => disk.stores? file.path = some true

def storable (disk : Disk) (files : List ScriptFile) : List ScriptFile :=
  (disk.openable files).filter fun file => disk.fits (Utf8.encode file.contents)

def placed (disk : Disk) (file : ScriptFile) : Place × Entry :=
  (disk.placeOf file.path, .file (disk.kept (Utf8.encode file.contents)))

section

variable {disk other : Disk} {directory path : Path} {files others : List ScriptFile}

theorem storeAll_frame (disk : Disk) (files : List ScriptFile) :
    (disk.storeAll files).home = disk.home ∧
      (disk.storeAll files).sizeLimit = disk.sizeLimit := by
  induction files generalizing disk with
  | nil => exact ⟨rfl, rfl⟩
  | cons file files ih =>
    have halters := alters_store disk file.path (Utf8.encode file.contents)
    have hrest := ih (disk.store file.path (Utf8.encode file.contents)).2
    exact ⟨hrest.1.trans halters.home, hrest.2.trans halters.sizeLimit⟩

theorem fills_storeAll (hnames : parentName ∉ directory.names)
    (hfiles : ∀ file ∈ files, IsIn directory file.path)
    (h : Fills directory (disk.makeDirectories directory).2 other) :
    Fills directory (disk.makeDirectories directory).2 (other.storeAll files) := by
  induction files generalizing other with
  | nil => exact h
  | cons file files ih =>
    obtain ⟨⟨name, hname, hpath⟩, hfiles⟩ := List.forall_mem_cons.mp hfiles
    have hstore := fills_store hnames hname h (Utf8.encode file.contents)
    rw [← hpath] at hstore
    exact ih hfiles hstore

theorem storeAll_of_fills (hnames : parentName ∉ directory.names)
    (hfiles : ∀ file ∈ files, IsIn directory file.path)
    (h : Fills directory (disk.makeDirectories directory).2 other) :
    other.storeAll files = { other with
      entries := Keyed.setAll ((disk.openable files).map disk.placed) other.entries } := by
  induction files generalizing other with
  | nil => rfl
  | cons file files ih =>
    obtain ⟨⟨name, hname, hpath⟩, hfiles⟩ := List.forall_mem_cons.mp hfiles
    have hfills := fills_store hnames hname h (Utf8.encode file.contents)
    have hdisk := store_of_fills hnames hname h (Utf8.encode file.contents)
    rw [← hpath] at hfills hdisk
    have hrest := ih hfiles hfills
    have hall : other.storeAll (file :: files) =
        (other.store file.path (Utf8.encode file.contents)).2.storeAll files := rfl
    rw [hall, hrest, hdisk]
    by_cases hstores : disk.stores? file.path = some true
    · have hopenable : disk.openable (file :: files) = file :: disk.openable files :=
        List.filter_cons_of_pos (decide_eq_true hstores)
      rw [if_pos hstores, hopenable]
      rfl
    · have hopenable : disk.openable (file :: files) = disk.openable files :=
        List.filter_cons_of_neg (by simpa using hstores)
      rw [if_neg hstores, hopenable]

theorem storeAll_eq_of_ne_nil (hnames : parentName ∉ directory.names)
    (hfiles : ∀ file ∈ files, IsIn directory file.path) (hne : files ≠ []) :
    disk.storeAll files = (disk.makeDirectories directory).2.storeAll files := by
  cases files with
  | nil => exact absurd rfl hne
  | cons file files =>
    obtain ⟨name, hname, hpath⟩ := hfiles file (List.mem_cons_self ..)
    have hmade : (disk.store file.path (Utf8.encode file.contents)).2 =
        ((disk.makeDirectories directory).2.store file.path (Utf8.encode file.contents)).2 := by
      rw [hpath, store_disk, parent_below, destination_eq_placeOf (not_mem_below hnames hname),
        placeOf_congr (makeDirectories_home disk directory),
        store_of_fills hnames hname (.refl directory (disk.makeDirectories directory).2)]
    have hall (disk : Disk) : disk.storeAll (file :: files) =
        (disk.store file.path (Utf8.encode file.contents)).2.storeAll files := rfl
    rw [hall, hall, hmade]

theorem stores?_storeAll (hnames : parentName ∉ directory.names)
    (hfiles : ∀ file ∈ files, IsIn directory file.path) (hpath : IsIn directory path) :
    (disk.storeAll files).stores? path = disk.stores? path := by
  obtain ⟨name, hname, rfl⟩ := hpath
  by_cases hne : files = []
  · rw [hne]
    rfl
  · have hfills := fills_storeAll hnames hfiles (.refl directory (disk.makeDirectories directory).2)
    rw [storeAll_eq_of_ne_nil hnames hfiles hne, stores?_of_fills hnames hname hfills]

theorem storable_append (disk : Disk) (front back : List ScriptFile) :
    disk.storable (front ++ back) = disk.storable front ++ disk.storable back := by
  rw [storable, storable, storable, openable, openable, openable, List.filter_append,
    List.filter_append]

theorem storable_of_store {made : Disk} {file : ScriptFile} {outcome : Except AccessError Unit}
    (h : disk.store file.path (Utf8.encode file.contents) = (outcome, made)) :
    disk.storable [file] = if success? outcome = some true then [file] else [] := by
  have hsuccess := congrArg Prod.fst h
  dsimp only at hsuccess
  have hiff : success? outcome = some true ↔
      disk.stores? file.path = some true ∧ disk.fits (Utf8.encode file.contents) = true := by
    rw [success?_eq_true_iff, ← hsuccess, store_eq_ok_iff]
  rw [storable, openable, List.filter_filter, List.filter_singleton, Bool.cond_eq_ite]
  simp only [Bool.and_eq_true, decide_eq_true_eq, hiff, and_comm]

theorem storable_storeAll (hnames : parentName ∉ directory.names)
    (hfiles : ∀ file ∈ files, IsIn directory file.path)
    (hothers : ∀ file ∈ others, IsIn directory file.path) :
    (disk.storeAll files).storable others = disk.storable others := by
  have hopenable : (disk.storeAll files).openable others = disk.openable others := by
    apply List.filter_congr
    intro file hfile
    rw [stores?_storeAll hnames hfiles (hothers file hfile)]
  rw [storable, storable, hopenable]
  simp only [fits_congr (storeAll_frame disk files).2]

theorem storeAll_storeAll (hnames : parentName ∉ directory.names)
    (hfiles : ∀ file ∈ files, IsIn directory file.path) :
    (disk.storeAll files).storeAll files = disk.storeAll files := by
  by_cases hne : files = []
  · rw [hne]
    rfl
  · have hrefl := Fills.refl directory (disk.makeDirectories directory).2
    have hfills := fills_storeAll hnames hfiles hrefl
    have hfirst : disk.storeAll files = (disk.makeDirectories directory).2.storeAll files :=
      storeAll_eq_of_ne_nil hnames hfiles hne
    rw [hfirst, storeAll_of_fills hnames hfiles hfills, storeAll_of_fills hnames hfiles hrefl,
      Keyed.setAll_setAll]

theorem path_eq_of_placed_eq {file second : ScriptFile} (hfile : IsIn directory file.path)
    (hsecond : IsIn directory second.path)
    (h : (disk.placed file).1 = (disk.placed second).1) : file.path = second.path := by
  obtain ⟨name, -, hpath⟩ := hfile
  obtain ⟨other, -, hother⟩ := hsecond
  unfold placed at h
  rw [hpath, hother, placeOf_below, placeOf_below] at h
  rw [hpath, hother, List.append_cancel_left h]

theorem entryAt_storeAll_of_perm (hnames : parentName ∉ directory.names)
    (hfiles : ∀ file ∈ files, IsIn directory file.path) (hperm : files.Perm others)
    (hsame : ∀ file ∈ files, ∀ second ∈ files, file.path = second.path → file = second)
    (place : Place) :
    (disk.storeAll others).entryAt place = (disk.storeAll files).entryAt place := by
  by_cases hne : files = []
  · subst hne
    rw [List.nil_perm.mp hperm]
  · have hothers : ∀ file ∈ others, IsIn directory file.path := by
      exact fun file hfile => hfiles file (hperm.mem_iff.mpr hfile)
    have hne' : others ≠ [] := by
      rintro rfl
      exact hne (List.perm_nil.mp hperm)
    have hrefl := Fills.refl directory (disk.makeDirectories directory).2
    have hpairs : ((disk.openable files).map disk.placed).Perm
        ((disk.openable others).map disk.placed) := (hperm.filter _).map _
    rw [storeAll_eq_of_ne_nil hnames hothers hne', storeAll_eq_of_ne_nil hnames hfiles hne,
      storeAll_of_fills hnames hothers hrefl, storeAll_of_fills hnames hfiles hrefl]
    unfold entryAt
    rw [Keyed.get?_setAll_eq_of_perm hpairs]
    intro x hx y hy hkey
    obtain ⟨file, hfile, rfl⟩ := List.mem_map.mp hx
    obtain ⟨second, hsecond, rfl⟩ := List.mem_map.mp hy
    have hfile := List.mem_of_mem_filter hfile
    have hsecond := List.mem_of_mem_filter hsecond
    have hpath := path_eq_of_placed_eq (hfiles file hfile) (hfiles second hsecond) hkey
    rw [hsame file hfile second hsecond hpath]

end

end Disk

end EnumExport
