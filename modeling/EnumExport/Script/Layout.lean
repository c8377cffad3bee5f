import EnumExport.Resolution
import EnumExport.Script.ConstantName

namespace EnumExport

def scriptEntry (c : ResolvedCase) : Except NumeralError (List Char) :=
  (Numeral.print c.value).map fun value => constantName c.name ++ " = ".toList ++ value

def scriptText (name : List Char) (cases : List ResolvedCase) : Except NumeralError (List Char) :=
  (cases.mapM scriptEntry).map fun entries =>
    "class_name ".toList ++ name ++ "\n\nenum \x7b\n\t".toList ++
      ",\n\t".toList.intercalate entries ++ "\n\x7d".toList

end EnumExport
