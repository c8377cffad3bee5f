import EnumExport.Disk.Tree

namespace EnumExport

namespace Disk

def directoryAt? (disk : Disk) (place : Place) : Option Bool :=
  (disk.entryAt place).map (· == .directory)

structure SameOutline (disk other : Disk) : Prop where
  home : other.home = disk.home
  outline : ∀ place, other.directoryAt? place = disk.directoryAt? place

variable {disk other : Disk}

theorem SameOutline.refl (disk : Disk) : SameOutline disk disk := ⟨rfl, fun _ => rfl⟩

theorem inDirectory_eq (disk : Disk) (place : Place) :
    disk.inDirectory place =
      match disk.directoryAt? place with
      | none => .error .notFound
      | some false => .error .notDirectory
      | some true => .ok () := by
  unfold inDirectory directoryAt?
  rcases disk.entryAt place with _ | ⟨bytes⟩ | _ <;> rfl

theorem SameOutline.walk_eq (h : SameOutline disk other) (place : Place)
    (names : List (List Char)) : other.walk place names = disk.walk place names := by
  induction names generalizing place with
  | nil => rfl
  | cons name names ih => simp only [walk, inDirectory_eq, h.outline, ih]

theorem SameOutline.locate_eq (h : SameOutline disk other) (path : Path) :
    other.locate path = disk.locate path := by
  rw [locate, locate, start, start, h.home, h.walk_eq]

end Disk

end EnumExport
