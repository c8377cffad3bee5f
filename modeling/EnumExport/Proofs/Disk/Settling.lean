import EnumExport.Proofs.Disk.Growth

namespace EnumExport

namespace Disk

theorem byteLength_append (front back : List Char) :
    byteLength (front ++ back) = byteLength front + byteLength back := by
  rw [byteLength, Utf8.encode, List.flatMap_append, List.length_append]
  rfl

theorem intercalate_concat (separator name : List Char) {names : List (List Char)}
    (hnames : names ≠ []) :
    separator.intercalate (names ++ [name]) =
      separator.intercalate names ++ (separator ++ name) := by
  induction names with
  | nil => exact absurd rfl hnames
  | cons first names ih =>
    cases names with
    | nil => simp [List.intercalate]
    | cons second names =>
      have hrest := ih (List.cons_ne_nil second names)
      simp only [List.intercalate, List.cons_append, List.intersperse_cons_cons, List.flatten_cons,
        List.append_assoc] at hrest ⊢
      rw [hrest]

theorem text_of_ne_nil {path : Path} (hnames : path.names ≠ []) :
    path.text = path.anchor.text ++ ['/'].intercalate path.names := by
  obtain ⟨anchor, names⟩ := path
  cases names with
  | nil => exact absurd rfl hnames
  | cons name names => cases anchor <;> rfl

theorem byteLength_text_le {directory : Path} {name : List Char}
    (h : byteLength (directory.below [name]).text ≤ pathLimit) :
    byteLength directory.text ≤ pathLimit := by
  by_cases hnames : directory.names = []
  · obtain ⟨anchor, names⟩ := directory
    obtain rfl : names = [] := hnames
    cases anchor <;> decide
  · have htext : (directory.below [name]).text = directory.text ++ (['/'] ++ name) := by
      have hbelow : (directory.below [name]).names = directory.names ++ [name] := rfl
      rw [text_of_ne_nil hnames, text_of_ne_nil (by simp [hbelow]), hbelow,
        intercalate_concat _ _ hnames, List.append_assoc]
      rfl
    rw [htext, byteLength_append] at h
    omega

theorem walk_append {disk : Disk} {place : Place} (front back : List (List Char)) :
    disk.walk place (front ++ back) = (disk.walk place front).bind (disk.walk · back) := by
  induction front generalizing place with
  | nil => rfl
  | cons name front ih =>
    rw [List.cons_append, walk, walk]
    cases disk.inDirectory place with
    | error fault => rfl
    | ok _ =>
      simp only
      split
      · exact ih
      · split
        · rfl
        · exact ih

section

variable {disk other made : Disk} {path directory : Path} {name : List Char} {above : Nat}

theorem find_eq_ok_iff {entry : Entry} :
    disk.find path = .ok entry ↔
      ∃ place, disk.locate path = .ok place ∧ disk.entryAt place = some entry := by
  unfold find
  cases disk.locate path with
  | error fault => simp [Except.bind]
  | ok place =>
    simp only [Except.bind, Except.ok.injEq, exists_eq_left']
    cases disk.entryAt place <;> simp

theorem find_directory_of_locate {place : Place}
    (h : disk.locate (directory.below [name]) = .ok place) :
    disk.find directory = .ok .directory := by
  unfold locate at h
  split at h
  · simp at h
  · rename_i hshort
    have hnames : (directory.below [name]).names = directory.names ++ [name] := rfl
    rw [hnames, walk_append] at h
    cases hwalk : disk.walk (disk.start (directory.below [name])) directory.names with
    | error fault => simp [hwalk, Except.bind] at h
    | ok front =>
      rw [hwalk] at h
      simp only [Except.bind, walk] at h
      split at h
      · simp at h
      · rename_i hin
        have hlength := byteLength_text_le (Nat.le_of_not_lt hshort)
        refine find_eq_ok_iff.mpr ⟨front, ?_, inDirectory_eq_ok_iff.mp hin⟩
        rw [locate, if_neg (Nat.not_lt_of_le hlength)]
        exact hwalk

theorem find_parent_of_locate {place : Place} (hnames : path.names ≠ [])
    (h : disk.locate path = .ok place) : disk.find path.parent = .ok .directory := by
  have hpath : path = path.parent.below [path.names.getLast hnames] := by
    obtain ⟨anchor, names⟩ := path
    rw [Path.below, Path.parent, List.dropLast_concat_getLast]
  rw [hpath] at h
  exact find_directory_of_locate h

theorem find_parent_of_find (h : disk.find path = .ok .directory) :
    disk.find path.parent = .ok .directory := by
  by_cases hnames : path.names = []
  · have hparent : path.parent = path := by
      obtain ⟨anchor, names⟩ := path
      simp_all [Path.parent]
    rwa [hparent]
  · obtain ⟨place, hlocate, -⟩ := find_eq_ok_iff.mp h
    exact find_parent_of_locate hnames hlocate

theorem makeDirectory_of_directory (h : disk.find path = .ok .directory) :
    disk.makeDirectory path = .error .occupied := by
  obtain ⟨place, hlocate, hentry⟩ := find_eq_ok_iff.mp h
  unfold makeDirectory
  split
  · rfl
  · rw [hlocate]
    simp [Except.bind, hentry]

theorem find_of_makeDirectory (h : disk.makeDirectory path = .ok made) :
    made.find path = .ok .directory := by
  have hgrows : Grows (fun _ => False) disk made := grows_makeDirectory h
  obtain ⟨-, -, place, hlocate, hentry, rfl⟩ := makeDirectory_eq_ok_iff.mp h
  refine find_eq_ok_iff.mpr ⟨place, locate_of_grows hgrows hlocate, ?_⟩
  have hroot : place ≠ [] := @ne_nil_of_entryAt disk place (by simp [hentry])
  rw [entryAt_set place .directory hroot, if_pos rfl]

theorem find_parent_of_makeDirectory (h : disk.makeDirectory path = .ok made) :
    disk.find path.parent = .ok .directory := by
  obtain ⟨hnames, -, place, hlocate, -⟩ := makeDirectory_eq_ok_iff.mp h
  exact find_parent_of_locate hnames hlocate

theorem settle_eq_ok_iff {fault : FileFault} (hnull : hasNull path = false) :
    disk.settle path fault = .ok () ↔ disk.find path = .ok .directory := by
  unfold settle isDirectory probe
  rw [hnull, if_neg Bool.false_ne_true]
  cases hfind : disk.find path with
  | ok entry =>
    simp only [Except.map, Except.bind, beq_iff_eq, Option.some.injEq]
    split <;> simp_all [fail]
  | error fault =>
    rcases isSearchFault_of_find hfind with rfl | rfl | rfl <;> simp [Except.map, Except.bind, fail]

theorem makeLast_of_directory (hnull : hasNull path = false)
    (h : disk.find path = .ok .directory) : disk.makeLast path = (.ok (), disk) := by
  rw [makeLast, makeDirectory_of_directory h]
  simp only [(settle_eq_ok_iff hnull).mpr h]

theorem makeDirectoriesAt_of_directory (hnull : hasNull path = false)
    (h : disk.find path = .ok .directory) (above : Nat) :
    disk.makeDirectoriesAt path above = (.ok (), disk) := by
  cases above with
  | zero => exact makeLast_of_directory hnull h
  | succ above =>
    rw [makeDirectoriesAt, makeDirectory_of_directory h]
    simp only [(settle_eq_ok_iff hnull).mpr h]

theorem find_of_makeLast (hnull : hasNull path = false)
    (h : disk.makeLast path = (.ok (), made)) : made.find path = .ok .directory := by
  unfold makeLast at h
  split at h
  · rename_i hmade
    obtain ⟨-, rfl⟩ := Prod.mk.inj h
    exact find_of_makeDirectory hmade
  · simp [fail] at h
  · obtain ⟨hsettle, rfl⟩ := Prod.mk.inj h
    exact (settle_eq_ok_iff hnull).mp hsettle

theorem find_of_makeDirectoriesAt (hnull : hasNull path = false)
    (h : disk.makeDirectoriesAt path above = (.ok (), made)) :
    made.find path = .ok .directory := by
  cases above with
  | zero => exact find_of_makeLast hnull h
  | succ above =>
    rw [makeDirectoriesAt] at h
    split at h
    · rename_i hmade
      obtain ⟨-, rfl⟩ := Prod.mk.inj h
      exact find_of_makeDirectory hmade
    · split at h
      · exact find_of_makeLast hnull h
      · simp at h
    · obtain ⟨hsettle, rfl⟩ := Prod.mk.inj h
      exact (settle_eq_ok_iff hnull).mp hsettle

theorem makeLast_of_error {error : AccessError} (h : disk.makeLast path = (.error error, made)) :
    made = disk := by
  unfold makeLast at h
  split at h
  · simp at h
  · exact (Prod.mk.inj h).2.symm
  · exact (Prod.mk.inj h).2.symm

def IsBlocked (disk : Disk) (path : Path) (above : Nat) : Prop :=
  ∃ error, disk.makeDirectoriesAt path above = (.error error, disk)

theorem IsBlocked.below (hnull : hasNull path = false) (h : disk.IsBlocked path.parent above) :
    disk.IsBlocked path (above + 1) := by
  obtain ⟨error, hblocked⟩ := h
  have hparent : disk.find path.parent ≠ .ok .directory := by
    intro hthere
    rw [makeDirectoriesAt_of_directory (hasNull_parent hnull) hthere] at hblocked
    simp at hblocked
  unfold IsBlocked
  rw [makeDirectoriesAt]
  split
  · rename_i hmade
    exact absurd (find_parent_of_makeDirectory hmade) hparent
  · rw [hblocked]
    exact ⟨error, rfl⟩
  · rename_i fault _ _
    cases hsettle : disk.settle path fault with
    | ok _ => exact absurd (find_parent_of_find ((settle_eq_ok_iff hnull).mp hsettle)) hparent
    | error error => exact ⟨error, rfl⟩

theorem isBlocked_of_makeLast (hnull : hasNull path = false)
    (hparent : disk.find path.parent = .ok .directory) {error : AccessError}
    (h : disk.makeLast path = (.error error, disk)) : disk.IsBlocked path (above + 1) := by
  unfold IsBlocked
  rw [makeDirectoriesAt]
  split
  · rename_i hmade
    rw [makeLast, hmade] at h
    simp at h
  · rw [makeDirectoriesAt_of_directory (hasNull_parent hnull) hparent]
    exact ⟨error, h⟩
  · rename_i fault hfault hmade
    have hlast : disk.makeLast path = (disk.settle path fault, disk) := by
      rw [makeLast, hmade]
      cases fault <;> first | rfl | exact absurd rfl (hfault ·)
    rw [hlast] at h
    exact ⟨error, h⟩

theorem isBlocked_makeDirectoriesAt (hnull : hasNull path = false) {error : AccessError}
    (h : disk.makeDirectoriesAt path above = (.error error, made)) : made.IsBlocked path above := by
  induction above generalizing disk path error with
  | zero =>
    obtain rfl := makeLast_of_error h
    exact ⟨error, h⟩
  | succ above ih =>
    have hagain := h
    rw [makeDirectoriesAt] at h
    split at h
    · simp at h
    · split at h
      · rename_i middle habove
        have hparent := find_of_makeDirectoriesAt (hasNull_parent hnull) habove
        obtain rfl := makeLast_of_error h
        exact isBlocked_of_makeLast hnull hparent h
      · rename_i habove
        obtain ⟨-, rfl⟩ := Prod.mk.inj h
        exact (ih (hasNull_parent hnull) habove).below hnull
    · obtain ⟨-, rfl⟩ := Prod.mk.inj h
      exact ⟨error, hagain⟩

structure IsAlike (place : Place) (disk other : Disk) : Prop where
  home : other.home = disk.home
  entryAt : ∀ front, front <+: place → other.entryAt front = disk.entryAt front

theorem IsAlike.parent (h : IsAlike (disk.placeOf path) disk other) :
    IsAlike (disk.placeOf path.parent) disk other := by
  refine ⟨h.home, fun front hfront => h.entryAt front (hfront.trans ?_)⟩
  exact (List.prefix_append_right_inj _).mpr (List.dropLast_prefix path.names)

theorem IsAlike.locate_eq (hnames : parentName ∉ path.names)
    (h : IsAlike (disk.placeOf path) disk other) : other.locate path = disk.locate path := by
  apply locate_congr h.home hnames
  intro front back hsplit _
  apply h.entryAt
  rw [placeOf, ← hsplit]
  exact (List.prefix_append_right_inj _).mpr (List.prefix_append front back)

theorem IsAlike.find_eq (hnames : parentName ∉ path.names)
    (h : IsAlike (disk.placeOf path) disk other) : other.find path = disk.find path := by
  rw [find, find, h.locate_eq hnames]
  cases hlocate : disk.locate path with
  | error fault => rfl
  | ok place =>
    obtain rfl := eq_placeOf_of_locate hnames hlocate
    simp only [Except.bind, h.entryAt _ (List.prefix_refl _)]

theorem IsAlike.settle_eq (hnames : parentName ∉ path.names)
    (h : IsAlike (disk.placeOf path) disk other) (fault : FileFault) :
    other.settle path fault = disk.settle path fault := by
  unfold settle isDirectory probe
  rw [h.find_eq hnames]

theorem IsAlike.makeDirectory_eq (hnames : parentName ∉ path.names)
    (h : IsAlike (disk.placeOf path) disk other) {fault : FileFault}
    (hfault : disk.makeDirectory path = .error fault) :
    other.makeDirectory path = .error fault := by
  unfold makeDirectory at hfault ⊢
  rw [h.locate_eq hnames]
  cases hlast : path.names.getLast? with
  | none => rwa [hlast] at hfault
  | some name =>
    rw [hlast] at hfault
    cases hlocate : disk.locate path with
    | error _ => rwa [hlocate] at hfault
    | ok place =>
      obtain rfl := eq_placeOf_of_locate hnames hlocate
      rw [hlocate] at hfault
      simp only [Except.bind, h.entryAt _ (List.prefix_refl _)] at hfault ⊢
      split
      · rename_i hname
        rwa [if_pos hname] at hfault
      · rename_i hname
        rw [if_neg hname] at hfault
        cases hentry : disk.entryAt (disk.placeOf path) with
        | none => simp [hentry] at hfault
        | some entry => rwa [hentry] at hfault

theorem IsAlike.makeLast_eq (hnames : parentName ∉ path.names)
    (h : IsAlike (disk.placeOf path) disk other) {error : AccessError}
    (hlast : disk.makeLast path = (.error error, disk)) :
    other.makeLast path = (.error error, other) := by
  unfold makeLast at hlast ⊢
  cases hmade : disk.makeDirectory path with
  | ok made => simp [hmade] at hlast
  | error fault =>
    rw [hmade] at hlast
    rw [h.makeDirectory_eq hnames hmade]
    cases fault <;> simp_all [h.settle_eq hnames]

theorem IsBlocked.congr (hnull : hasNull path = false) (hnames : parentName ∉ path.names)
    (halike : IsAlike (disk.placeOf path) disk other) (h : disk.IsBlocked path above) :
    other.IsBlocked path above := by
  obtain ⟨error, h⟩ := h
  unfold IsBlocked
  induction above generalizing path error with
  | zero => exact ⟨error, halike.makeLast_eq hnames h⟩
  | succ above ih =>
    have hparents : parentName ∉ path.parent.names := by
      exact fun hmem => hnames ((List.dropLast_sublist _).subset hmem)
    rw [makeDirectoriesAt] at h ⊢
    cases hmade : disk.makeDirectory path with
    | ok made => simp [hmade] at h
    | error fault =>
      rw [hmade] at h
      rw [halike.makeDirectory_eq hnames hmade]
      by_cases hfault : fault = .notFound
      · subst hfault
        simp only at h ⊢
        split at h
        · rename_i middle habove
          obtain rfl := makeLast_of_error h
          have hparent := find_of_makeDirectoriesAt (hasNull_parent hnull) habove
          rw [← halike.parent.find_eq hparents] at hparent
          rw [makeDirectoriesAt_of_directory (hasNull_parent hnull) hparent]
          exact ⟨error, halike.makeLast_eq hnames h⟩
        · rename_i fault middle habove
          obtain ⟨-, rfl⟩ := Prod.mk.inj h
          obtain ⟨again, hagain⟩ := ih (hasNull_parent hnull) hparents halike.parent _ habove
          rw [hagain]
          exact ⟨again, rfl⟩
      · cases fault <;> simp_all [halike.settle_eq hnames]

def success? : Except AccessError Unit → Option Bool
  | .ok () => some true
  | .error (.file _) => some false
  | .error .nullInPath => none

theorem success?_eq_true_iff {outcome : Except AccessError Unit} :
    success? outcome = some true ↔ outcome = .ok () := by
  cases outcome with
  | ok _ => simp [success?]
  | error error => cases error <;> simp [success?]

theorem makeDirectories_again (hnames : parentName ∉ directory.names)
    {outcome : Except AccessError Unit} (h : disk.makeDirectories directory = (outcome, made))
    (halike : IsAlike (made.placeOf directory) made other) :
    (other.makeDirectories directory).2 = other ∧
      success? (other.makeDirectories directory).1 = success? outcome := by
  unfold makeDirectories at h ⊢
  cases hnull : hasNull directory with
  | true =>
    rw [hnull, if_pos rfl] at h
    obtain ⟨rfl, rfl⟩ := Prod.mk.inj h
    exact ⟨rfl, rfl⟩
  | false =>
    rw [hnull, if_neg Bool.false_ne_true] at h
    rw [if_neg Bool.false_ne_true]
    cases outcome with
    | ok _ =>
      have hthere := find_of_makeDirectoriesAt hnull h
      rw [← halike.find_eq hnames] at hthere
      rw [makeDirectoriesAt_of_directory hnull hthere]
      exact ⟨rfl, rfl⟩
    | error error =>
      have hfile := @isFileError_makeDirectoriesAt disk directory hnull directory.names.length
      rw [h] at hfile
      obtain ⟨fileError, rfl⟩ := hfile error rfl
      have hblocked := (isBlocked_makeDirectoriesAt hnull h).congr hnull hnames halike
      obtain ⟨again, hagain⟩ := hblocked
      have hother := @isFileError_makeDirectoriesAt other directory hnull directory.names.length
      rw [hagain] at hother ⊢
      obtain ⟨otherError, rfl⟩ := hother again rfl
      exact ⟨rfl, rfl⟩

end

end Disk

end EnumExport
