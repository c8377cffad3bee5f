import EnumExport.Text.Blank
import EnumExport.Text.DecimalDigit
import EnumExport.Text.Quoted

/-!
Whole numbers as text. A numeral is read in a given base, with blanks around it, a sign and the
base's own marker allowed, and with the decimal digits of any script. Decimal numerals have a
length limit in both directions, because conversion takes quadratic time.
-/

namespace EnumExport

def digitLimit : Nat := 4300

inductive NumeralError where
  | malformed (base : Nat) (digits : List Char)
  | tooLong (count : Nat)
  | unprintable
deriving DecidableEq, Repr

namespace Numeral

def plain (c : Char) : Char :=
  if c.toNat < 0x80 then c
  else if isBlank c then ' '
  else match wideDigit? c with
    | some d => Char.ofNat (0x30 + d)
    | none => '?'

def isPlainBlank (c : Char) : Bool := c == ' ' || (0x09 ≤ c.toNat && c.toNat ≤ 0x0D)

def digit? (base : Nat) (c : Char) : Option Nat :=
  let value? :=
    if '0' ≤ c ∧ c ≤ '9' then some (c.toNat - 0x30)
    else if 'a' ≤ c ∧ c ≤ 'f' then some (c.toNat - 0x57)
    else if 'A' ≤ c ∧ c ≤ 'F' then some (c.toNat - 0x37)
    else none
  value?.filter (· < base)

def isDigit (base : Nat) (c : Char) : Bool := (digit? base c).isSome

def marker? (base : Nat) : Option Char :=
  if base = 16 then some 'x' else if base = 8 then some 'o' else if base = 2 then some 'b' else none

def dropMarker (base : Nat) : List Char → List Char
  | '0' :: c :: rest => if marker? base = some c.toLower then rest else '0' :: c :: rest
  | text => text

def value (base : Nat) (digits : List Char) : Nat :=
  digits.foldl (fun n c => n * base + (digit? base c).getD 0) 0

def splitSign : List Char → Bool × List Char
  | '-' :: rest => (true, rest)
  | '+' :: rest => (false, rest)
  | text => (false, text)

def read (base : Nat) (text : List Char) : Except NumeralError Int :=
  let (negative, unsigned) := splitSign ((text.map plain).dropWhile isPlainBlank)
  let body := dropMarker base unsigned
  let digits := body.takeWhile (isDigit base)
  if base = 10 ∧ digitLimit < digits.length then .error (.tooLong digits.length)
  else if digits.isEmpty ∨ !(body.dropWhile (isDigit base)).all isPlainBlank then
    .error (.malformed base text)
  else if negative then .ok (-(value base digits : Int))
  else .ok (value base digits)

def decimal (n : Int) : List Char :=
  if n < 0 then '-' :: Nat.toDigits 10 n.natAbs else Nat.toDigits 10 n.natAbs

/-- The least number with more decimal digits than a numeral may have. -/
def printLimit : Nat := Nat.pow 10 digitLimit

def print (n : Int) : Except NumeralError (List Char) :=
  if n.natAbs < printLimit then .ok (decimal n) else .error .unprintable

end Numeral

def natText (n : Nat) : List Char := Nat.toDigits 10 n

def quotationLimit : Nat := 200

def NumeralError.message : NumeralError → List Char
  | malformed base digits =>
    "invalid literal for int() with base ".toList ++ natText base ++ ": ".toList ++
      (quoted digits).take quotationLimit
  | tooLong count =>
    "Exceeds the limit (".toList ++ natText digitLimit ++
      " digits) for integer string conversion: value has ".toList ++ natText count ++
      " digits; ".toList ++ "use sys.set_int_max_str_digits() to increase the limit".toList
  | unprintable =>
    "Exceeds the limit (".toList ++ natText digitLimit ++
      " digits) for integer string conversion; ".toList ++
      "use sys.set_int_max_str_digits() to increase the limit".toList

end EnumExport
