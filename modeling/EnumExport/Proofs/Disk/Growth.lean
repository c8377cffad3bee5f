import EnumExport.Proofs.Disk.Alteration
import EnumExport.Proofs.Keyed
import Mathlib.Data.List.Induction

namespace EnumExport

namespace Disk

/-- Everything there stays, but for the files at places that may be written. -/
structure Grows (written : Place → Prop) (before after : Disk) : Prop where
  home : after.home = before.home
  sizeLimit : after.sizeLimit = before.sizeLimit
  directory : ∀ place, before.entryAt place = some .directory →
    after.entryAt place = some .directory
  file : ∀ place bytes, ¬ written place → before.entryAt place = some (.file bytes) →
    after.entryAt place = some (.file bytes)

theorem read_eq_ok_iff {disk : Disk} {path : Path} {bytes : List UInt8} :
    disk.read path = .ok bytes ↔ hasNull path = false ∧
      ∃ place, disk.locate path = .ok place ∧ disk.entryAt place = some (.file bytes) := by
  unfold read find
  cases hasNull path with
  | true => simp
  | false =>
    cases disk.locate path with
    | error fault => simp [Except.bind, fail]
    | ok place =>
      simp only [Except.bind, Bool.false_eq_true, if_false, true_and, Except.ok.injEq,
        exists_eq_left']
      cases disk.entryAt place with
      | none => simp [fail]
      | some entry => cases entry <;> simp [fail]

section

variable {written : Place → Prop} {disk before middle after : Disk} {path : Path}

namespace Grows

theorem refl (disk : Disk) : Grows written disk disk :=
  ⟨rfl, rfl, fun _ h => h, fun _ _ _ h => h⟩

theorem trans (hfirst : Grows written before middle) (hlast : Grows written middle after) :
    Grows written before after := by
  constructor
  · exact hlast.home.trans hfirst.home
  · exact hlast.sizeLimit.trans hfirst.sizeLimit
  · intro place hentry
    exact hlast.directory place (hfirst.directory place hentry)
  · intro place bytes hplace hentry
    exact hlast.file place bytes hplace (hfirst.file place bytes hplace hentry)

theorem entryAt {place : Place} {entry : Entry} (h : Grows written before after)
    (hplace : ¬ written place) (hentry : before.entryAt place = some entry) :
    after.entryAt place = some entry := by
  cases entry with
  | directory => exact h.directory place hentry
  | file bytes => exact h.file place bytes hplace hentry

end Grows

theorem Alters.grows {made : Place → Prop} (h : Alters made written before after) :
    Grows written before after := by
  refine ⟨h.home, h.sizeLimit, fun place hentry => ?_, fun place bytes hplain hentry => ?_⟩
  · have hbecomes := h.becomes place
    rw [hentry] at hbecomes
    exact hbecomes.of_directory
  · have hbecomes := h.becomes place
    rw [hentry] at hbecomes
    exact hbecomes.of_file hplain

theorem grows_makeDirectory (h : disk.makeDirectory path = .ok after) :
    Grows written disk after :=
  (@alters_makeDirectory (fun _ => True) written disk after path trivial h).grows

theorem grows_makeDirectories (disk : Disk) (path : Path) :
    Grows written disk (disk.makeDirectories path).2 :=
  (alters_makeDirectories disk path).grows

theorem grows_store (hwritten : written (disk.destination path)) (bytes : List UInt8) :
    Grows written disk (disk.store path bytes).2 := by
  apply Alters.grows
  apply (alters_store disk path bytes).mono (fun _ => id)
  rintro place rfl
  exact hwritten

end

theorem exists_entryAt_of_mem {disk : Disk} {place : Place} {entry : Entry}
    (h : (place, entry) ∈ disk.entries) :
    ∃ first, disk.entryAt place = some first := by
  rw [entryAt]
  split
  · exact ⟨.directory, rfl⟩
  · exact Keyed.exists_get?_of_mem h

/-- Everything is in a directory, and nothing has the name that stands for the parent. -/
structure IsTree (disk : Disk) : Prop where
  inDirectory : ∀ placed ∈ disk.entries, disk.entryAt placed.1.dropLast = some .directory
  ownName : ∀ placed ∈ disk.entries, parentName ∉ placed.1

theorem IsTree.directory_above {disk : Disk} (htree : disk.IsTree) {front back : Place}
    (hback : back ≠ []) {entry : Entry} (hentry : disk.entryAt (front ++ back) = some entry) :
    disk.entryAt front = some .directory := by
  induction back using List.reverseRecOn generalizing entry with
  | nil => exact absurd rfl hback
  | append_singleton back name ih =>
    rw [← List.append_assoc] at hentry
    have hmem : (front ++ back ++ [name], entry) ∈ disk.entries := by
      apply Keyed.mem_of_get?
      simpa [entryAt] using hentry
    have habove := htree.inDirectory _ hmem
    rw [List.dropLast_concat] at habove
    by_cases hempty : back = []
    · rwa [hempty, List.append_nil] at habove
    · exact ih hempty habove

section

variable {written : Place → Prop} {before after : Disk}

theorem locate_of_grows (hgrows : Grows written before after) {path : Path} {place : Place}
    (h : before.locate path = .ok place) : after.locate path = .ok place := by
  unfold locate start at h ⊢
  rw [hgrows.home]
  split at h
  · simp at h
  · rename_i hshort
    rw [if_neg hshort]
    exact walk_mono hgrows.directory h

theorem read_of_grows (hgrows : Grows written before after) {path : Path} {bytes : List UInt8}
    (hplain : ¬ written (before.destination path)) (h : before.read path = .ok bytes) :
    after.read path = .ok bytes := by
  obtain ⟨hnull, place, hlocate, hentry⟩ := read_eq_ok_iff.mp h
  refine read_eq_ok_iff.mpr ⟨hnull, place, locate_of_grows hgrows hlocate, ?_⟩
  rw [← eq_destination_of_locate hlocate] at hplain
  exact hgrows.file place bytes hplain hentry

theorem walk_congr {disk other : Disk} {place : Place} {names : List (List Char)}
    (hnames : parentName ∉ names)
    (hsame : ∀ front back, front ++ back = names → back ≠ [] →
      other.entryAt (place ++ front) = disk.entryAt (place ++ front)) :
    other.walk place names = disk.walk place names := by
  induction names generalizing place with
  | nil => rfl
  | cons name names ih =>
    have hname := List.ne_of_not_mem_cons hnames
    have hnames := List.not_mem_of_not_mem_cons hnames
    have hplace := hsame [] (name :: names) rfl (List.cons_ne_nil name names)
    rw [List.append_nil] at hplace
    rw [walk, walk, inDirectory, inDirectory, hplace]
    simp only [if_neg hname.symm]
    have hrest : other.walk (place ++ [name]) names = disk.walk (place ++ [name]) names := by
      apply ih hnames
      intro front back hsplit hback
      rw [List.append_assoc]
      apply hsame (name :: front) back _ hback
      rw [List.cons_append, hsplit]
    rw [hrest]

theorem locate_congr {disk other : Disk} (hhome : other.home = disk.home) {path : Path}
    (hnames : parentName ∉ path.names)
    (hsame : ∀ front back, front ++ back = path.names → back ≠ [] →
      other.entryAt (disk.start path ++ front) = disk.entryAt (disk.start path ++ front)) :
    other.locate path = disk.locate path := by
  have hstart : other.start path = disk.start path := by
    unfold start
    rw [hhome]
  rw [locate, locate, hstart, walk_congr hnames hsame]

theorem find_of_grows (htree : before.IsTree) (hgrows : Grows written before after) {path : Path}
    (hnames : parentName ∉ path.names) {entry : Entry}
    (hentry : before.entryAt (before.placeOf path) = some entry)
    (hkept : after.entryAt (before.placeOf path) = some entry) :
    after.find path = before.find path := by
  have hlocate : after.locate path = before.locate path := by
    apply locate_congr hgrows.home hnames
    intro front back hsplit hback
    have habove : before.entryAt (before.start path ++ front) = some .directory := by
      apply htree.directory_above hback
      rwa [List.append_assoc, hsplit]
    rw [habove, hgrows.directory _ habove]
  rw [find, find, hlocate]
  cases hplace : before.locate path with
  | error fault => rfl
  | ok place =>
    obtain rfl := eq_placeOf_of_locate hnames hplace
    simp only [Except.bind, hentry, hkept]

theorem readDeclarations_of_grows (htree : before.IsTree) (hgrows : Grows written before after)
    {path : Path} (hnames : parentName ∉ path.names) {entry : Entry}
    (hentry : before.entryAt (before.placeOf path) = some entry)
    (hplain : ¬ written (before.placeOf path)) (marker : List Char) :
    after.readDeclarations marker path = before.readDeclarations marker path := by
  have hread : after.read path = before.read path := by
    rw [read, read,
      find_of_grows htree hgrows hnames hentry (hgrows.entryAt hplain hentry)]
  rw [readDeclarations, readDeclarations, hread]

end

end Disk

end EnumExport
