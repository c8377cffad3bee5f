import EnumExport.Disk.Path
import EnumExport.Script.Layout

namespace EnumExport

structure ScriptFile where
  path : Path
  contents : List Char
deriving DecidableEq, Repr

structure ScriptPlace where
  directory : Path := ⟨.here, ["Enums".toList]⟩
  extension : List Char := "gd".toList
deriving DecidableEq, Repr

namespace ScriptPlace

def dottedExtension (place : ScriptPlace) : List Char :=
  '.' :: place.extension.dropWhile (· == '.')

def pathOf (place : ScriptPlace) (name : List Char) : Path :=
  place.directory.join (Path.ofText (name ++ place.dottedExtension))

def scriptFile (place : ScriptPlace) (name : List Char) (cases : List ResolvedCase) :
    Except NumeralError ScriptFile :=
  (scriptText name cases).map (⟨place.pathOf name, ·⟩)

end ScriptPlace

end EnumExport
