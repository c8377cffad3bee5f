import EnumExport.Disk.Tree

namespace EnumExport

def textLe : List Char → List Char → Bool
  | [], _ => true
  | _ :: _, [] => false
  | a :: as, b :: bs => a.toNat < b.toNat || (a == b && textLe as bs)

def namesLe : Place → Place → Bool
  | [], _ => true
  | _ :: _, [] => false
  | a :: as, b :: bs => if a = b then namesLe as bs else textLe a b

namespace Disk

def relative? : Place → Place → Option Place
  | [], names => some names
  | _ :: _, [] => none
  | a :: as, b :: bs => if a = b then relative? as bs else none

def hasEnding (ending : List Char) (names : Place) : Bool :=
  match names.getLast? with
  | none => false
  | some name => ending.isSuffixOf name

def namesBelow (disk : Disk) (place : Place) : List Place :=
  disk.entries.filterMap fun (other, _) => relative? place other

def searchBelow (disk : Disk) (ending : List Char) (place : Place) : List Place :=
  ((disk.namesBelow place).filter (hasEnding ending)).mergeSort namesLe

def directoriesBelow (disk : Disk) (place : Place) : List Place :=
  (disk.namesBelow place).filter fun names => disk.entryAt (place ++ names) = some .directory

end Disk

end EnumExport
