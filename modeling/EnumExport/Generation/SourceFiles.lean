import EnumExport.Generation.Expansion

namespace EnumExport

def sourceEnding : List Char := ".swift".toList

def Disk.lookBelow (disk : Disk) (path : Path) (place : Place) : Except AccessError Unit :=
  ((disk.directoriesBelow place).mapM fun names => disk.isDirectory (path.below names)).map
    fun _ => ()

/-- The paths that a path stands for. A search below a directory fails if the path to one of the
directories there is too long. -/
def Disk.filesOf (disk : Disk) (path : Path) : Except AccessError (List Path) :=
  (disk.isDirectory path).bind fun there =>
    if there then
      match disk.locate path with
      | .ok place =>
        (disk.lookBelow path place).map fun _ =>
          (disk.searchBelow sourceEnding place).map path.below
      | .error fault => Disk.fail fault path
    else .ok [path]

def Disk.sourceFiles (disk : Disk) (paths : List Path) : Except AccessError (List Path) :=
  (paths.mapM disk.filesOf).map List.flatten

inductive FileReadError where
  | access (error : AccessError)
  | encoding (error : Utf8.DecodeError)
  | source (error : SourceError)
  | numeral (error : NumeralError)
deriving DecidableEq, Repr

def FileReadError.ofReadError : ReadError → FileReadError
  | .source error => source error
  | .numeral error => numeral error

def Disk.readDeclarations (disk : Disk) (marker : List Char) (path : Path) :
    Except FileReadError (List Declaration) :=
  match disk.read path with
  | .error error => .error (.access error)
  | .ok bytes =>
    match Utf8.decode bytes with
    | .error error => .error (.encoding error)
    | .ok text =>
      match readSource marker (some path.text) (unifyLineEnds text) with
      | .error error => .error (.ofReadError error)
      | .ok declarations => .ok declarations

namespace Step

def reportSkipped (path : Path) (reason : List Char) : Step Unit :=
  report ⟨.error, "Skipping ".toList ++ path.text ++ ": ".toList ++ reason, none, none⟩

def generateFile (settings : Settings) (path : Path) : Step Nat := do
  match (← get).disk.readDeclarations settings.marker path with
  | .ok declarations =>
    expandAll settings declarations
    return declarations.length
  | .error (.source error) =>
    report ⟨.error, error.problem⟩
    return 0
  | .error (.access (.file error)) =>
    reportSkipped path error.message
    return 0
  | .error (.encoding error) =>
    reportSkipped path error.message
    return 0
  | .error (.access error) => throw (.access error)
  | .error (.numeral error) => throw (.numeral error)

def generateFiles (settings : Settings) : List Path → Step Nat
  | [] => return 0
  | path :: paths => do
    let count ← generateFile settings path
    return count + (← generateFiles settings paths)

def generatePaths (settings : Settings) (paths : List Path) : Step Nat := do
  match (← get).disk.sourceFiles paths with
  | .error error => throw (.access error)
  | .ok files => generateFiles settings files

end Step

end EnumExport
