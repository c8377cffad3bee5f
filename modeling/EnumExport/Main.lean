import EnumExport.CommandLine.Command

namespace EnumExport

def nominalPlace (home : Place) (path : Path) : Place :=
  let start := match path.anchor with
    | .here => home
    | _ => []
  path.names.foldl
    (fun place name => if name = Disk.parentName then place.dropLast else place ++ [name]) start

def placeText (place : Place) : String := String.ofList ('/' :: ['/'].intercalate place)

partial def addReal (deep : Bool) (disk : Disk) (place : Place) : IO Disk := do
  let real := (← IO.currentDir) / placeText place
  if ← real.isDir then
    let disk := if place.isEmpty then disk else disk.set place .directory
    if deep then
      (← real.readDir).foldlM
        (fun disk entry => addReal true disk (place ++ [entry.fileName.toList]))
        disk
    else return disk
  else if ← real.pathExists then
    return disk.set place (.file (← IO.FS.readBinFile real).toList)
  else return disk

def addWithAbove (deep : Bool) (disk : Disk) (place : Place) : IO Disk := do
  let above := (List.range place.length).map place.take
  addReal deep (← above.foldlM (addReal false) disk) place

def optionPaths : Except UsageError Invocation → List Path
  | .ok (.run options) => options.settings.place.directory :: options.paths
  | _ => []

def realHome : IO Place := do
  return (Path.ofText (← IO.currentDir).toString.toList).names

def realDisk (arguments : List (List Char)) : IO Disk := do
  let home ← realHome
  let places := (optionPaths (parseCommandLine arguments)).map (nominalPlace home)
  places.foldlM (addWithAbove true) (← addWithAbove false { entries := [], home := home } home)

def applyChange (before : Disk) (change : Place × Entry) : IO Unit := do
  let (place, entry) := change
  if before.entryAt place = some entry then return
  match entry with
  | .directory => IO.FS.createDirAll (placeText place)
  | .file bytes => IO.FS.writeBinFile (placeText place) ⟨bytes.toArray⟩

end EnumExport

open EnumExport

def main (arguments : List String) : IO UInt32 := do
  let arguments := arguments.map String.toList
  let disk ← realDisk arguments
  let outcome := runCommand disk arguments
  outcome.disk.entries.forM (applyChange disk)
  IO.print (String.ofList outcome.output)
  IO.eprint (String.ofList outcome.errors)
  match outcome.status with
  | .ok status => return UInt32.ofNat status
  | .error interruption =>
    IO.eprintln (String.ofList interruption.message)
    return 1
