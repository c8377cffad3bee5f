import EnumExport.Source.Reader

namespace EnumExport

structure Problem where
  message : List Char
  file : Option (List Char) := none
  line : Option Int := none
deriving DecidableEq, Repr

namespace Problem

def location (problem : Problem) : List Char :=
  match problem.file, problem.line with
  | none, _ => []
  | some file, none => file
  | some file, some line => file ++ ':' :: Numeral.decimal line

def located (location text : List Char) : List Char :=
  if location.isEmpty then text else location ++ ": ".toList ++ text

def text (problem : Problem) : List Char := located problem.location problem.message

def misplaced (marker : List Char) (file : Option (List Char)) (line : Option Int) : Problem :=
  ⟨"'@".toList ++ marker ++ "' can only be applied to an 'enum'".toList, file, line⟩

end Problem

def SourceError.problem (error : SourceError) : Problem :=
  ⟨error.message, error.file, some error.line⟩

end EnumExport
