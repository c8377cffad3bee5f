import EnumExport.Proofs.Disk.Settling
import EnumExport.Proofs.Text.Encoding

namespace EnumExport

namespace Disk

variable {disk : Disk} {path : Path} {paths : List Path} {place names : Place}

theorem mem_entries_of_entryAt {entry : Entry} (h : disk.entryAt place = some entry)
    (hplace : place ≠ []) : (place, entry) ∈ disk.entries := by
  rw [entryAt, if_neg hplace] at h
  exact Keyed.mem_of_get? h

theorem mem_directoriesBelow_iff (hnames : names ≠ []) :
    names ∈ disk.directoriesBelow place ↔ disk.entryAt (place ++ names) = some .directory := by
  rw [directoriesBelow, List.mem_filter, decide_eq_true_eq, and_iff_right_iff_imp]
  intro hentry
  have hplace := List.append_ne_nil_of_right_ne_nil place hnames
  exact mem_namesBelow_iff.mpr ⟨_, mem_entries_of_entryAt hentry hplace⟩

theorem byteLength_eq (text : List Char) : byteLength text = text.utf8Encode.size := by
  rw [byteLength, Utf8.encode_eq, Array.length_toList, ByteArray.size_data]

theorem byteLength_text_le_of_below {names : List (List Char)}
    (h : byteLength (path.below names).text ≤ pathLimit) : byteLength path.text ≤ pathLimit := by
  induction names generalizing path with
  | nil => rwa [Path.below, List.append_nil] at h
  | cons name names ih =>
    have hsplit : path.below (name :: names) = (path.below [name]).below names := by
      rw [Path.below, Path.below, Path.below, List.append_assoc, List.singleton_append]
    rw [hsplit] at h
    exact byteLength_text_le (ih h)

theorem walk_eq_nameTooLong_iff : disk.walk place names = .error .nameTooLong ↔
    ∃ front name rest there, names = front ++ name :: rest ∧ nameLimit < byteLength name ∧
      disk.walk place front = .ok there ∧ disk.entryAt there = some .directory := by
  constructor
  · intro h
    induction names generalizing place with
    | nil => simp [walk] at h
    | cons name names ih =>
      rw [walk] at h
      cases hin : disk.inDirectory place with
      | error fault =>
        rw [hin] at h
        rcases notFound_or_notDirectory_of_inDirectory hin with rfl | rfl <;> simp at h
      | ok _ =>
        have hplace := inDirectory_eq_ok_iff.mp hin
        simp only [hin] at h
        -- What follows the first name is found to be too long behind it.
        have hmore {next : Place} (hnext : disk.walk place [name] = .ok next)
            (hrest : disk.walk next names = .error .nameTooLong) :
            ∃ front long rest there, name :: names = front ++ long :: rest ∧
              nameLimit < byteLength long ∧ disk.walk place front = .ok there ∧
                disk.entryAt there = some .directory := by
          obtain ⟨front, long, rest, there, rfl, hlong, hwalk, hthere⟩ := ih hrest
          refine ⟨name :: front, long, rest, there, rfl, hlong, ?_, hthere⟩
          rw [← List.singleton_append, walk_append, hnext]
          exact hwalk
        by_cases hparent : name = parentName
        · rw [if_pos hparent] at h
          exact hmore (by simp [walk, hin, hparent]) h
        · rw [if_neg hparent] at h
          by_cases hlong : nameLimit < byteLength name
          · exact ⟨[], name, names, place, rfl, hlong, rfl, hplace⟩
          · rw [if_neg hlong] at h
            exact hmore (by simp [walk, hin, hparent, hlong]) h
  · rintro ⟨front, name, rest, there, rfl, hlong, hwalk, hthere⟩
    have hparent : name ≠ parentName := by
      rintro rfl
      revert hlong
      decide
    rw [walk_append, hwalk, Except.bind, walk, inDirectory_eq_ok_iff.mpr hthere]
    simp only [if_neg hparent, if_pos hlong]

/-- A path is too long to be looked up if its text is, or a name behind a directory on the way. -/
def IsTooLong (disk : Disk) (path : Path) : Prop :=
  4095 < path.text.utf8Encode.size ∨
    ∃ front name rest, path.names = front ++ name :: rest ∧ 255 < name.utf8Encode.size ∧
      disk.find ⟨path.anchor, front⟩ = .ok .directory

theorem locate_front {front back : List (List Char)} (hnames : path.names = front ++ back)
    (htext : ¬ pathLimit < byteLength path.text) :
    disk.locate ⟨path.anchor, front⟩ = disk.walk (disk.start path) front := by
  have hpath : (Path.mk path.anchor front).below back = path := by rw [Path.below, ← hnames]
  have hfront : ¬ pathLimit < byteLength (Path.mk path.anchor front).text := by
    rw [← hpath] at htext
    exact Nat.not_lt.mpr (byteLength_text_le_of_below (Nat.not_lt.mp htext))
  rw [locate, if_neg hfront]
  rfl

theorem locate_eq_nameTooLong_iff :
    disk.locate path = .error .nameTooLong ↔ disk.IsTooLong path := by
  have hsize : pathLimit < byteLength path.text ↔ 4095 < path.text.utf8Encode.size := by
    rw [byteLength_eq, pathLimit]
  by_cases htext : pathLimit < byteLength path.text
  · rw [locate, if_pos htext]
    exact iff_of_true rfl (.inl (hsize.mp htext))
  · rw [locate, if_neg htext, IsTooLong, or_iff_right (hsize.not.mp htext), walk_eq_nameTooLong_iff]
    constructor
    · rintro ⟨front, name, rest, there, hnames, hlong, hwalk, hthere⟩
      rw [byteLength_eq] at hlong
      have hfront := (locate_front hnames htext).trans hwalk
      exact ⟨front, name, rest, hnames, hlong, find_eq_ok_iff.mpr ⟨there, hfront, hthere⟩⟩
    · rintro ⟨front, name, rest, hnames, hlong, hfind⟩
      rw [← byteLength_eq] at hlong
      obtain ⟨there, hfront, hthere⟩ := find_eq_ok_iff.mp hfind
      rw [locate_front hnames htext] at hfront
      exact ⟨front, name, rest, there, hnames, hlong, hfront, hthere⟩

theorem find_eq_nameTooLong_iff :
    disk.find path = .error .nameTooLong ↔ disk.IsTooLong path := by
  rw [← locate_eq_nameTooLong_iff, find]
  cases disk.locate path with
  | error fault => simp [Except.bind]
  | ok there =>
    simp only [Except.bind]
    cases disk.entryAt there <;> simp

theorem exists_isDirectory_iff : (∃ there, disk.isDirectory path = .ok there) ↔
    hasNull path = true ∨ ¬ disk.IsTooLong path := by
  cases hnull : hasNull path with
  | true => exact iff_of_true ⟨false, by simp [isDirectory, probe, hnull, Except.map]⟩ (.inl rfl)
  | false =>
    have herror {error : AccessError} := @isDirectory_eq_error_iff disk path hnull error
    simp only [find_eq_nameTooLong_iff] at herror
    rw [or_iff_right Bool.false_ne_true]
    cases hthere : disk.isDirectory path with
    | ok there =>
      refine iff_of_true ⟨there, rfl⟩ fun hlong => ?_
      have hfails := herror.mpr ⟨hlong, rfl⟩
      rw [hthere] at hfails
      cases hfails
    | error error => exact iff_of_false (by simp) (not_not_intro (herror.mp hthere).1)

/-- Neither the path nor, if it leads to a directory, the path to one below is too long to be looked
up. A path with a null character leads nowhere, however long it is. -/
def IsInReach (disk : Disk) (path : Path) : Prop :=
  ∀ names, names = [] ∨ disk.isDirectory path = .ok true ∧
      disk.entryAt (disk.destination path ++ names) = some .directory →
    hasNull (path.below names) = true ∨ ¬ disk.IsTooLong (path.below names)

theorem isInReach_iff : disk.IsInReach path ↔
    ∀ names, names = [] ∨ disk.isDirectory path = .ok true ∧
        disk.entryAt (disk.destination path ++ names) = some .directory →
      ∃ there, disk.isDirectory (path.below names) = .ok there := by
  simp only [IsInReach, exists_isDirectory_iff]

theorem below_nil (path : Path) : path.below [] = path := by rw [Path.below, List.append_nil]

theorem lookBelow_eq_ok_iff : disk.lookBelow path place = .ok () ↔
    ∀ names ∈ disk.directoriesBelow place,
      ∃ there, disk.isDirectory (path.below names) = .ok there := by
  rw [lookBelow, ← exists_mapM_ok_iff]
  cases (disk.directoriesBelow place).mapM fun names => disk.isDirectory (path.below names) with
  | error error => simp [Except.map]
  | ok found => simp [Except.map]

theorem isInReach_of_not_directory (h : disk.isDirectory path = .ok false) :
    disk.IsInReach path := by
  rw [isInReach_iff]
  rintro names (rfl | ⟨hthere, -⟩)
  · exact ⟨false, (below_nil path).symm ▸ h⟩
  · rw [h] at hthere
    cases hthere

theorem isInReach_iff_lookBelow (hthere : disk.isDirectory path = .ok true) :
    disk.IsInReach path ↔ disk.lookBelow path (disk.destination path) = .ok () := by
  rw [isInReach_iff, lookBelow_eq_ok_iff]
  constructor
  · intro h names hmem
    exact h names (.inr ⟨hthere, of_decide_eq_true (List.mem_filter.mp hmem).2⟩)
  · rintro h names hnames
    by_cases hempty : names = []
    · exact ⟨true, by rw [hempty, below_nil, hthere]⟩
    · obtain ⟨-, hentry⟩ := hnames.resolve_left hempty
      exact h names ((mem_directoriesBelow_iff hempty).mpr hentry)

theorem exists_filesOf_iff : (∃ files, disk.filesOf path = .ok files) ↔ disk.IsInReach path := by
  cases hthere : disk.isDirectory path with
  | error error =>
    constructor
    · rintro ⟨files, hfiles⟩
      simp [filesOf, hthere, Except.bind] at hfiles
    · intro h
      obtain ⟨there, hpath⟩ := isInReach_iff.mp h [] (.inl rfl)
      rw [below_nil, hthere] at hpath
      cases hpath
  | ok there =>
    cases there with
    | false => exact iff_of_true ⟨_, filesOf_of_other hthere⟩ (isInReach_of_not_directory hthere)
    | true =>
      obtain ⟨place, hplace⟩ := exists_locate_of_isDirectory hthere
      obtain rfl := eq_destination_of_locate hplace
      rw [isInReach_iff_lookBelow hthere, filesOf_of_directory hthere hplace]
      cases disk.lookBelow path (disk.destination path) <;> simp [Except.map]

theorem exists_sourceFiles_iff :
    (∃ files, disk.sourceFiles paths = .ok files) ↔ ∀ path ∈ paths, disk.IsInReach path := by
  have hmap : (∃ files, disk.sourceFiles paths = .ok files) ↔
      ∃ files, paths.mapM disk.filesOf = .ok files := by
    rw [sourceFiles]
    cases paths.mapM disk.filesOf <;> simp [Except.map]
  rw [hmap, exists_mapM_ok_iff]
  simp only [exists_filesOf_iff]

theorem isInReach_of_entries (hpath : ∃ there, disk.isDirectory path = .ok there)
    (hentries : ∀ placed ∈ disk.entries, ∀ names ∈ relative? (disk.destination path) placed.1,
      ∃ there, disk.isDirectory (path.below names) = .ok there) : disk.IsInReach path := by
  refine isInReach_iff.mpr fun names hnames => ?_
  by_cases hempty : names = []
  · rwa [hempty, below_nil]
  · have hmem := mem_entries_of_entryAt (hnames.resolve_left hempty).2
      (List.append_ne_nil_of_right_ne_nil _ hempty)
    exact hentries _ hmem names (relative?_append _ names)

end Disk

end EnumExport
