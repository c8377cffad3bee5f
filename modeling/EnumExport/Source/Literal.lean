import EnumExport.Text.Numeral

namespace EnumExport

namespace Literal

def bases : List Nat := [16, 8, 2]

def baseOf : List Char → Nat
  | '0' :: c :: _ => (bases.find? fun base => Numeral.marker? base == some c.toLower).getD 10
  | _ => 10

def dropSeparators (text : List Char) : List Char := text.filter (· != '_')

def read (text : List Char) : Except NumeralError Int :=
  let digits := dropSeparators text
  let base := baseOf digits
  Numeral.read base (if base = 10 then digits else digits.drop 2)

def isDigitRun (base : Nat) : List Char → Bool
  | [] => false
  | c :: rest => Numeral.isDigit base c && rest.all fun d => d == '_' || Numeral.isDigit base d

def isLiteral (text : List Char) : Bool :=
  isDigitRun 10 text ||
    match text with
    | '0' :: c :: rest =>
      bases.any fun base => Numeral.marker? base == some c && isDigitRun base rest
    | _ => false

end Literal

end EnumExport
