import EnumExport.Source.Literal

namespace EnumExport

inductive Expression where
  | integer (value : Int)
  | negation (operand : Expression)
  | unsupported (source : List Char)
deriving DecidableEq, Repr

namespace Expression

def eval? : Expression → Option Int
  | integer value => some value
  | negation operand => operand.eval?.map (-·)
  | unsupported _ => none

def operatorChars : List Char := "/=-+!*%<>&|^~?.".toList

def readUnsigned (text : List Char) : Except NumeralError Expression :=
  if Literal.isLiteral text then (Literal.read text).map integer
  else .ok (unsupported text)

def isOperand : List Char → Bool
  | [] => false
  | c :: _ => !isBlank c && !operatorChars.contains c

def read (text : List Char) : Except NumeralError Expression :=
  match trim text with
  | '-' :: operand =>
    if isOperand operand then (readUnsigned operand).map negation
    else .ok (unsupported ('-' :: operand))
  | unsigned => readUnsigned unsigned

end Expression

end EnumExport
