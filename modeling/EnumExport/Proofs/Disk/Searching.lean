import EnumExport.Proofs.Disk.Storing

namespace EnumExport

namespace Disk

def AddsNone (ending : List Char) (before after : Disk) : Prop :=
  ∃ added, after.entries.map Prod.fst = before.entries.map Prod.fst ++ added ∧
    ∀ place ∈ added, hasEnding ending place = false

variable {ending : List Char} {disk made before middle after : Disk}

theorem AddsNone.refl (disk : Disk) : AddsNone ending disk disk :=
  ⟨[], (List.append_nil _).symm, by simp⟩

theorem AddsNone.trans (hfirst : AddsNone ending before middle)
    (hlast : AddsNone ending middle after) : AddsNone ending before after := by
  obtain ⟨front, hfront, hfree⟩ := hfirst
  obtain ⟨back, hback, hrest⟩ := hlast
  refine ⟨front ++ back, ?_, List.forall_mem_append.mpr ⟨hfree, hrest⟩⟩
  rw [hback, hfront, List.append_assoc]

theorem addsNone_set {place : Place} (hplace : hasEnding ending place = false) (entry : Entry) :
    AddsNone ending disk (disk.set place entry) := by
  unfold AddsNone set
  rw [Keyed.keys_set]
  split
  · exact AddsNone.refl disk
  · exact ⟨[place], rfl, by simpa using hplace⟩

theorem hasEnding_append (place : Place) {names : Place} (hnames : names ≠ []) :
    hasEnding ending (place ++ names) = hasEnding ending names := by
  obtain ⟨init, last, rfl⟩ := (List.eq_nil_or_concat' names).resolve_left hnames
  rw [hasEnding, hasEnding, ← List.append_assoc, List.getLast?_concat, List.getLast?_concat]

theorem hasEnding_eq_false {names : Place} (h : ∀ name ∈ names, ¬ ending <:+ name) :
    hasEnding ending names = false := by
  unfold hasEnding
  split
  · rfl
  · rename_i name hlast
    have hname := h name (List.mem_of_getLast? hlast)
    rwa [← List.isSuffixOf_iff_suffix, Bool.not_eq_true] at hname

theorem searchBelow_eq (place : Place) :
    disk.searchBelow ending place =
      (((disk.entries.map Prod.fst).filterMap (relative? place)).filter
        (hasEnding ending)).mergeSort namesLe := by
  rw [searchBelow, List.filterMap_map]
  rfl

theorem AddsNone.searchBelow_eq (h : AddsNone ending before after) (place : Place) :
    after.searchBelow ending place = before.searchBelow ending place := by
  obtain ⟨added, hadded, hfree⟩ := h
  have hnone : (added.filterMap (relative? place)).filter (hasEnding ending) = [] := by
    rw [List.filter_eq_nil_iff]
    intro names hnames
    obtain ⟨other, hother, hrelative⟩ := List.mem_filterMap.mp hnames
    have hplace := hfree other hother
    rw [eq_append_of_relative? hrelative] at hplace
    by_cases hempty : names = []
    · simp [hempty, hasEnding]
    · rw [← hasEnding_append place hempty, hplace]
      exact Bool.false_ne_true
  rw [Disk.searchBelow_eq, Disk.searchBelow_eq, hadded, List.filterMap_append, List.filter_append,
    hnone, List.append_nil]

theorem addsNone_makeDirectory {path : Path} (hnames : parentName ∉ path.names)
    (hfree : ∀ name ∈ path.names, ¬ ending <:+ name) (h : disk.makeDirectory path = .ok made) :
    AddsNone ending disk made := by
  obtain ⟨hne, -, place, hlocate, -, rfl⟩ := makeDirectory_eq_ok_iff.mp h
  obtain rfl := eq_placeOf_of_locate hnames hlocate
  apply addsNone_set
  rw [placeOf, hasEnding_append _ hne]
  exact hasEnding_eq_false hfree

theorem addsNone_makeDirectories {path : Path} (hnames : parentName ∉ path.names)
    (hfree : ∀ name ∈ path.names, ¬ ending <:+ name) :
    AddsNone ending disk (disk.makeDirectories path).2 := by
  apply makeDirectories_induction (AddsNone ending)
  · exact AddsNone.refl
  · exact AddsNone.trans
  · intro before after names hfront hmade
    apply addsNone_makeDirectory _ _ hmade
    · exact fun hmem => hnames (hfront.subset hmem)
    · exact fun name hmem => hfree name (hfront.subset hmem)

theorem addsNone_store {directory : Path} {name : List Char}
    (hnames : parentName ∉ directory.names) (hname : name ≠ parentName)
    (hfree : ∀ name ∈ directory.names, ¬ ending <:+ name) (hending : ¬ ending <:+ name)
    (bytes : List UInt8) :
    AddsNone ending disk (disk.store (directory.below [name]) bytes).2 := by
  rw [store_disk, parent_below]
  split
  · refine (addsNone_makeDirectories hnames hfree).trans (addsNone_set ?_ _)
    rw [destination_below hname, hasEnding_append _ (List.cons_ne_nil name [])]
    exact hasEnding_eq_false (by simpa using hending)
  · exact addsNone_makeDirectories hnames hfree

theorem addsNone_storeAll {directory : Path} {files : List ScriptFile}
    (hnames : parentName ∉ directory.names)
    (hfree : ∀ name ∈ directory.names, ¬ ending <:+ name)
    (hfiles : ∀ file ∈ files, ∃ name, name ≠ parentName ∧ ¬ ending <:+ name ∧
      file.path = directory.below [name]) :
    AddsNone ending disk (disk.storeAll files) := by
  induction files generalizing disk with
  | nil => exact .refl disk
  | cons file files ih =>
    obtain ⟨⟨name, hname, hending, hpath⟩, hfiles⟩ := List.forall_mem_cons.mp hfiles
    have hfirst := @addsNone_store ending disk directory name hnames hname hfree hending
      (Utf8.encode file.contents)
    rw [← hpath] at hfirst
    exact hfirst.trans (ih hfiles)

end Disk

end EnumExport
