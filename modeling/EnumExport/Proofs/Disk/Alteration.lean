import EnumExport.Proofs.Disk.Faults

/-!
Alteration of a disk: to store a file is to make the directories on the way to it that are missing,
and to set what is at its own place. Every other place is as it was.
-/

namespace EnumExport

namespace Disk

def placeOf (disk : Disk) (path : Path) : Place := disk.start path ++ path.names

theorem placeOf_congr {disk other : Disk} (hhome : other.home = disk.home) (path : Path) :
    other.placeOf path = disk.placeOf path := by
  unfold placeOf start
  rw [hhome]

theorem placeOf_below (disk : Disk) (path : Path) (names : List (List Char)) :
    disk.placeOf (path.below names) = disk.placeOf path ++ names :=
  (List.append_assoc ..).symm

def reach (place : Place) : List (List Char) → Place
  | [] => place
  | name :: names =>
    if name = parentName then reach place.dropLast names else reach (place ++ [name]) names

theorem reach_append (place : Place) (front back : List (List Char)) :
    reach place (front ++ back) = reach (reach place front) back := by
  induction front generalizing place with
  | nil => rfl
  | cons name front ih =>
    rw [List.cons_append, reach, reach]
    split
    · exact ih place.dropLast
    · exact ih (place ++ [name])

theorem reach_eq_append {names : List (List Char)} (hnames : parentName ∉ names) (place : Place) :
    reach place names = place ++ names := by
  induction names generalizing place with
  | nil => exact (List.append_nil place).symm
  | cons name names ih =>
    have hname := List.ne_of_not_mem_cons hnames
    rw [reach, if_neg hname.symm, ih (List.not_mem_of_not_mem_cons hnames), List.append_assoc,
      List.singleton_append]

theorem eq_reach_of_walk {disk : Disk} {place other : Place} {names : List (List Char)}
    (h : disk.walk place names = .ok other) : other = reach place names := by
  induction names generalizing place with
  | nil => exact (Except.ok.inj h).symm
  | cons name names ih =>
    rw [walk] at h
    rw [reach]
    split at h
    · simp at h
    · split at h
      · rename_i hname
        rw [if_pos hname, ih h]
      · rename_i hname
        split at h
        · simp at h
        · rw [if_neg hname, ih h]

def destination (disk : Disk) (path : Path) : Place := reach (disk.start path) path.names

theorem destination_congr {disk other : Disk} (hhome : other.home = disk.home) (path : Path) :
    other.destination path = disk.destination path := by
  unfold destination start
  rw [hhome]

theorem destination_eq_placeOf {path : Path} (hnames : parentName ∉ path.names) (disk : Disk) :
    disk.destination path = disk.placeOf path := reach_eq_append hnames _

theorem destination_below {name : List Char} (hname : name ≠ parentName) (disk : Disk)
    (directory : Path) :
    disk.destination (directory.below [name]) = disk.destination directory ++ [name] := by
  have hstart : disk.start (directory.below [name]) = disk.start directory := rfl
  have hnames : (directory.below [name]).names = directory.names ++ [name] := rfl
  rw [destination, hstart, hnames, reach_append, reach, if_neg hname]
  rfl

theorem eq_destination_of_locate {disk : Disk} {path : Path} {place : Place}
    (h : disk.locate path = .ok place) : place = disk.destination path := by
  unfold locate at h
  split at h
  · simp at h
  · exact eq_reach_of_walk h

theorem eq_placeOf_of_locate {disk : Disk} {path : Path} {place : Place}
    (hnames : parentName ∉ path.names) (h : disk.locate path = .ok place) :
    place = disk.placeOf path :=
  (eq_destination_of_locate h).trans (destination_eq_placeOf hnames disk)

theorem makeDirectory_eq_ok_iff {disk made : Disk} {path : Path} :
    disk.makeDirectory path = .ok made ↔
      path.names ≠ [] ∧ path.names.getLast? ≠ some parentName ∧
        ∃ place, disk.locate path = .ok place ∧ disk.entryAt place = none ∧
          made = disk.set place .directory := by
  unfold makeDirectory
  cases hlast : path.names.getLast? with
  | none => simp [List.getLast?_eq_none_iff.mp hlast]
  | some name =>
    have hnames : path.names ≠ [] := by
      rintro hnames
      simp [hnames] at hlast
    cases disk.locate path with
    | error fault => simp [Except.bind]
    | ok place =>
      by_cases hname : name = parentName
      · simp [Except.bind, hname]
      · cases hentry : disk.entryAt place <;> simp [Except.bind, hname, hnames, eq_comm, hentry]

theorem makeDirectories_induction (relates : Disk → Disk → Prop) {path : Path}
    (refl : ∀ disk, relates disk disk)
    (trans : ∀ {before middle after}, relates before middle → relates middle after →
      relates before after)
    (step : ∀ {before after} names, names <+: path.names →
      before.makeDirectory { path with names := names } = .ok after → relates before after)
    (disk : Disk) : relates disk (disk.makeDirectories path).2 := by
  have hlast {names : List (List Char)} (hnames : names <+: path.names) (disk : Disk) :
      relates disk (disk.makeLast { path with names := names }).2 := by
    rw [makeLast]
    split
    · rename_i hmade
      exact step names hnames hmade
    · exact refl disk
    · exact refl disk
  have hall (above : Nat) {names : List (List Char)} (hnames : names <+: path.names) (disk : Disk) :
      relates disk (disk.makeDirectoriesAt { path with names := names } above).2 := by
    -- On how many names may be left out at the end.
    induction above generalizing disk names with
    | zero => exact hlast hnames disk
    | succ above ih =>
      rw [makeDirectoriesAt]
      split
      · rename_i hmade
        exact step names hnames hmade
      · have habove := ih ((List.dropLast_prefix names).trans hnames) disk
        rw [Path.parent]
        split
        · rename_i middle hparent
          rw [hparent] at habove
          exact trans habove (hlast hnames middle)
        · rename_i error middle hparent
          rwa [hparent] at habove
      · exact refl disk
  rw [makeDirectories]
  split
  · exact refl disk
  · exact hall path.names.length (List.prefix_refl path.names) disk

/-- What may become of a place: it stays as it is; if nothing is there and it may be made, it
becomes a directory; if it may be written and is no directory, it becomes a file. -/
inductive Becomes (made written : Prop) : Option Entry → Option Entry → Prop
  | kept {entry : Option Entry} : Becomes made written entry entry
  | made : made → Becomes made written none (some .directory)
  | written {old : Option Entry} {bytes : List UInt8} : written → old ≠ some .directory →
      Becomes made written old (some (.file bytes))

theorem Becomes.trans {made written : Prop} {before middle after : Option Entry}
    (hfirst : Becomes made written before middle) (hlast : Becomes made written middle after) :
    Becomes made written before after := by
  cases hlast with
  | kept => exact hfirst
  | made hmade =>
    -- Nothing that was there has gone.
    cases hfirst with
    | kept => exact .made hmade
  | written hwritten hmiddle =>
    cases hfirst with
    | kept => exact .written hwritten hmiddle
    | made _ => exact absurd rfl hmiddle
    | written _ hbefore => exact .written hwritten hbefore

theorem Becomes.mono {made written made' written' : Prop} {before after : Option Entry}
    (hmade : made → made') (hwritten : written → written')
    (h : Becomes made written before after) : Becomes made' written' before after := by
  cases h with
  | kept => exact .kept
  | made h => exact .made (hmade h)
  | written h hbefore => exact .written (hwritten h) hbefore

theorem Becomes.of_directory {made written : Prop} {after : Option Entry}
    (h : Becomes made written (some .directory) after) : after = some .directory := by
  cases h with
  | kept => rfl
  | written _ hbefore => exact absurd rfl hbefore

theorem Becomes.of_file {made written : Prop} {bytes : List UInt8} {after : Option Entry}
    (hplain : ¬ written) (h : Becomes made written (some (.file bytes)) after) :
    after = some (.file bytes) := by
  cases h with
  | kept => rfl
  | written hwritten _ => exact absurd hwritten hplain

/-- Nothing has happened but that directories were made and files were written, each at places where
this may be done. -/
structure Alters (made written : Place → Prop) (before after : Disk) : Prop where
  home : after.home = before.home
  sizeLimit : after.sizeLimit = before.sizeLimit
  becomes : ∀ place,
    Becomes (made place) (written place) (before.entryAt place) (after.entryAt place)

def IsOnWay (disk : Disk) (directory : Path) (place : Place) : Prop :=
  ∃ names, names <+: directory.names ∧ place = disk.destination { directory with names := names }

theorem isOnWay_congr {disk other : Disk} (hhome : other.home = disk.home) (directory : Path) :
    other.IsOnWay directory = disk.IsOnWay directory := by
  unfold IsOnWay
  simp only [destination_congr hhome]

section

variable {made written : Place → Prop} {disk before middle after : Disk} {path : Path}

namespace Alters

theorem refl (disk : Disk) : Alters made written disk disk := ⟨rfl, rfl, fun _ => .kept⟩

theorem trans (hfirst : Alters made written before middle)
    (hlast : Alters made written middle after) : Alters made written before after where
  home := hlast.home.trans hfirst.home
  sizeLimit := hlast.sizeLimit.trans hfirst.sizeLimit
  becomes := fun place => (hfirst.becomes place).trans (hlast.becomes place)

theorem mono {made' written' : Place → Prop} (hmade : ∀ place, made place → made' place)
    (hwritten : ∀ place, written place → written' place) (h : Alters made written before after) :
    Alters made' written' before after :=
  ⟨h.home, h.sizeLimit, fun place => (h.becomes place).mono (hmade place) (hwritten place)⟩

end Alters

theorem alters_set {place : Place} {entry : Entry}
    (h : Becomes (made place) (written place) (disk.entryAt place) (some entry))
    (hentry : disk.entryAt place ≠ some .directory) :
    Alters made written disk (disk.set place entry) := by
  refine ⟨rfl, rfl, fun other => ?_⟩
  rw [entryAt_set other entry (ne_nil_of_entryAt hentry)]
  split
  · rename_i hhere
    rwa [← hhere]
  · exact .kept

theorem alters_makeDirectory (hmade : made (disk.destination path))
    (h : disk.makeDirectory path = .ok after) : Alters made written disk after := by
  obtain ⟨-, -, place, hlocate, hnone, rfl⟩ := makeDirectory_eq_ok_iff.mp h
  obtain rfl := eq_destination_of_locate hlocate
  apply alters_set
  · rw [hnone]
    exact .made hmade
  · simp [hnone]

theorem alters_makeDirectories (disk : Disk) (path : Path) :
    Alters (disk.IsOnWay path) written disk (disk.makeDirectories path).2 := by
  have hfrom : disk.home = disk.home →
      Alters (disk.IsOnWay path) written disk (disk.makeDirectories path).2 := by
    apply makeDirectories_induction fun before after =>
      before.home = disk.home → Alters (disk.IsOnWay path) written before after
    · exact fun before _ => .refl before
    · intro before middle after hfirst hlast hhome
      exact (hfirst hhome).trans (hlast ((hfirst hhome).home.trans hhome))
    · intro before after names hnames hmade hhome
      exact alters_makeDirectory ⟨names, hnames, destination_congr hhome _⟩ hmade
  exact hfrom rfl

theorem alters_writeFile (hwritten : written (disk.destination path)) (bytes : List UInt8) :
    Alters made written disk (disk.writeFile path bytes).2 := by
  rw [writeFile]
  split
  · exact .refl disk
  · split
    · exact .refl disk
    · rename_i place hlocate
      obtain rfl := eq_destination_of_locate hlocate
      split
      · exact .refl disk
      · split
        · exact .refl disk
        · rename_i hentry
          exact alters_set (.written hwritten hentry) hentry

theorem alters_store (disk : Disk) (path : Path) (bytes : List UInt8) :
    Alters (disk.IsOnWay path.parent) (· = disk.destination path) disk
      (disk.store path bytes).2 := by
  have hmade := @alters_makeDirectories (· = disk.destination path) disk path.parent
  rw [store]
  split
  · rename_i error middle hparent
    rwa [hparent] at hmade
  · rename_i middle hparent
    rw [hparent] at hmade
    have hplace : middle.destination path = disk.destination path :=
      destination_congr hmade.home path
    exact hmade.trans (@alters_writeFile _ (· = disk.destination path) _ _ hplace bytes)

theorem sizeLimit_of_store {outcome : Except AccessError Unit} {bytes : List UInt8}
    (h : disk.store path bytes = (outcome, after)) : after.sizeLimit = disk.sizeLimit := by
  have halters := alters_store disk path bytes
  rw [h] at halters
  exact halters.sizeLimit

end

end Disk

end EnumExport
