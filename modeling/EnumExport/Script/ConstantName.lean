import EnumExport.Text.LetterCase

namespace EnumExport

def constantPart (c : Char) : List Char := if isUpper c then '_' :: upper c else upper c

def constantName : List Char → List Char
  | [] => []
  | c :: name => upper c ++ name.flatMap constantPart

end EnumExport
