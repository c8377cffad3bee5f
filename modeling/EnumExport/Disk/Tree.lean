import EnumExport.Disk.AccessError
import EnumExport.Keyed
import EnumExport.Text.Utf8

/-!
The files and directories on a disk, and how a path leads to one of them. A place is the list of
names from the root down. Nothing but the root is there unless it is listed.

A disk has nothing but files and directories, so no links and no devices, and whoever runs the
program may read and write all of them. It has room for any number of files, though there may be a
limit to the size of each. Names and texts are made of characters: half of a surrogate pair is none.
-/

namespace EnumExport

inductive Entry where
  | file (bytes : List UInt8)
  | directory
deriving DecidableEq, Repr

abbrev Place := List (List Char)

structure Disk where
  entries : Keyed Place Entry
  home : Place := []
  sizeLimit : Option Nat := none
deriving DecidableEq, Repr

namespace Disk

def entryAt (disk : Disk) (place : Place) : Option Entry :=
  if place = [] then some .directory else Keyed.get? place disk.entries

def set (disk : Disk) (place : Place) (entry : Entry) : Disk :=
  { disk with entries := Keyed.set place entry disk.entries }

theorem entryAt_set {disk : Disk} {place : Place} (other : Place) (entry : Entry)
    (h : place ≠ []) :
    (disk.set place entry).entryAt other =
      if place = other then some entry else disk.entryAt other := by
  unfold entryAt set
  by_cases ho : other = []
  · subst ho
    simp [h]
  · simp [ho, Keyed.get?_set]

def nameLimit : Nat := 255

def pathLimit : Nat := 4095

def byteLength (text : List Char) : Nat := (Utf8.encode text).length

def parentName : List Char := ['.', '.']

def start (disk : Disk) (path : Path) : Place :=
  match path.anchor with
  | .here => disk.home
  | _ => []

def inDirectory (disk : Disk) (place : Place) : Except FileFault Unit :=
  match disk.entryAt place with
  | none => .error .notFound
  | some (.file _) => .error .notDirectory
  | some .directory => .ok ()

/-- The place that some names lead to. All but the last must lead to directories; what is at the
place itself does not matter. -/
def walk (disk : Disk) (place : Place) : List (List Char) → Except FileFault Place
  | [] => .ok place
  | name :: names =>
    match disk.inDirectory place with
    | .error fault => .error fault
    | .ok () =>
      if name = parentName then disk.walk place.dropLast names
      else if nameLimit < byteLength name then .error .nameTooLong
      else disk.walk (place ++ [name]) names

def locate (disk : Disk) (path : Path) : Except FileFault Place :=
  if pathLimit < byteLength path.text then .error .nameTooLong
  else disk.walk (disk.start path) path.names

def find (disk : Disk) (path : Path) : Except FileFault Entry :=
  (disk.locate path).bind fun place =>
    match disk.entryAt place with
    | none => .error .notFound
    | some entry => .ok entry

def hasNull (path : Path) : Bool := path.names.any (·.contains (Char.ofNat 0))

def fail {α : Type} (fault : FileFault) (path : Path) : Except AccessError α :=
  .error (.file ⟨fault, some path⟩)

/-- The entry that a path leads to, if there is one. A path that is too long is an error even so. -/
def probe (disk : Disk) (path : Path) : Except AccessError (Option Entry) :=
  if hasNull path then .ok none
  else match disk.find path with
    | .ok entry => .ok (some entry)
    | .error .notFound => .ok none
    | .error .notDirectory => .ok none
    | .error fault => fail fault path

def pathExists (disk : Disk) (path : Path) : Except AccessError Bool :=
  (disk.probe path).map Option.isSome

def isDirectory (disk : Disk) (path : Path) : Except AccessError Bool :=
  (disk.probe path).map (· == some .directory)

def read (disk : Disk) (path : Path) : Except AccessError (List UInt8) :=
  if hasNull path then .error .nullInPath
  else match disk.find path with
    | .ok (.file bytes) => .ok bytes
    | .ok .directory => fail .isDirectory path
    | .error fault => fail fault path

end Disk

end EnumExport
