import EnumExport.Disk.Tree

/-!
Changes to a disk: directories are made and files are written. What has been done before a failure
stays done, so every change gives the disk after it along with its outcome.
-/

namespace EnumExport

namespace Disk

def makeDirectory (disk : Disk) (path : Path) : Except FileFault Disk :=
  match path.names.getLast? with
  | none => .error .occupied
  | some name =>
    (disk.locate path).bind fun place =>
      if name = parentName then .error .occupied
      else match disk.entryAt place with
        | some _ => .error .occupied
        | none => .ok (disk.set place .directory)

def settle (disk : Disk) (path : Path) (fault : FileFault) : Except AccessError Unit :=
  (disk.isDirectory path).bind fun there => if there then .ok () else fail fault path

def makeLast (disk : Disk) (path : Path) : Except AccessError Unit × Disk :=
  match disk.makeDirectory path with
  | .ok disk => (.ok (), disk)
  | .error .notFound => (fail .notFound path, disk)
  | .error fault => (disk.settle path fault, disk)

/-- Makes the directory at `path` and those above it that are missing, the path having so many
names. -/
def makeDirectoriesAt (disk : Disk) (path : Path) : Nat → Except AccessError Unit × Disk
  | 0 => disk.makeLast path
  | above + 1 =>
    match disk.makeDirectory path with
    | .ok disk => (.ok (), disk)
    | .error .notFound =>
      match disk.makeDirectoriesAt path.parent above with
      | (.ok (), disk) => disk.makeLast path
      | (.error error, disk) => (.error error, disk)
    | .error fault => (disk.settle path fault, disk)

def makeDirectories (disk : Disk) (path : Path) : Except AccessError Unit × Disk :=
  if hasNull path then (.error .nullInPath, disk)
  else disk.makeDirectoriesAt path path.names.length

def fits (disk : Disk) (bytes : List UInt8) : Bool := disk.sizeLimit.all (bytes.length ≤ ·)

def kept (disk : Disk) (bytes : List UInt8) : List UInt8 :=
  match disk.sizeLimit with
  | none => bytes
  | some limit => bytes.take limit

/-- A file is emptied as it is opened, so that its old bytes are gone even if the new ones do not
fit. -/
def writeFile (disk : Disk) (path : Path) (bytes : List UInt8) : Except AccessError Unit × Disk :=
  if hasNull path then (.error .nullInPath, disk)
  else match disk.locate path with
    | .error fault => (fail fault path, disk)
    | .ok place =>
      if path.names.getLast? = some parentName then (fail .isDirectory path, disk)
      else match disk.entryAt place with
        | some .directory => (fail .isDirectory path, disk)
        | _ =>
          (if disk.fits bytes then .ok () else .error (.file ⟨.tooLarge, none⟩),
            disk.set place (.file (disk.kept bytes)))

def store (disk : Disk) (path : Path) (bytes : List UInt8) : Except AccessError Unit × Disk :=
  match disk.makeDirectories path.parent with
  | (.error error, disk) => (.error error, disk)
  | (.ok (), disk) => disk.writeFile path bytes

end Disk

end EnumExport
