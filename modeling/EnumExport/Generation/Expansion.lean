import EnumExport.Generation.Session

namespace EnumExport

namespace Step

def generateEnum (settings : Settings) (enum : EnumDeclaration) : Step ScriptFile := do
  match settings.place.scriptFile enum.name (resolve 0 enum.cases) with
  | .error error => throw (.numeral error)
  | .ok file =>
    modify fun session => { session with generated := Keyed.set enum.name file session.generated }
    unless settings.dryRun do
      if ← write file then
        modify fun session => { session with written := session.written ++ [file.path] }
    return file

def expand (settings : Settings) (declaration : Declaration) : Step Unit := do
  match declaration.asEnum? with
  | some enum => let _ ← generateEnum settings enum
  | none => report ⟨.error, .misplaced settings.marker declaration.file declaration.line⟩

def expandAll (settings : Settings) : List Declaration → Step Unit
  | [] => return ()
  | declaration :: declarations => do
    expand settings declaration
    expandAll settings declarations

def generateSource (settings : Settings) (file : Option (List Char)) (source : List Char) :
    Step Nat := do
  match readSource settings.marker file source with
  | .error (.source error) => throw (.source error)
  | .error (.numeral error) => throw (.numeral error)
  | .ok declarations =>
    expandAll settings declarations
    return declarations.length

end Step

end EnumExport
