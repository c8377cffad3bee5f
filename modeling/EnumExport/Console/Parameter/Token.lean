import EnumExport.Console.Parameter.Name
import EnumExport.Text.Numeral

namespace EnumExport

namespace Parameter

inductive NumberKind where
  | decimal
  | hexadecimal
  | octal
  | binary
  | imaginary
deriving DecidableEq, Repr

def NumberKind.name : NumberKind → List Char
  | decimal => "decimal".toList
  | hexadecimal => "hexadecimal".toList
  | octal => "octal".toList
  | binary => "binary".toList
  | imaginary => "imaginary".toList

inductive Token where
  | name (text : List Char)
  | number (isImaginary : Bool)
  | quotation (isBytes isFormatted : Bool)
  | sign (text : List Char)
  | strayContinuation
deriving DecidableEq, Repr

inductive TokenError where
  | openText (line : Nat)
  | openBlock (line : Nat)
  | number (kind : NumberKind)
  | digit (digit : Char) (kind : NumberKind)
  | leadingZeros
  | character (c : Char)
  | unmatched (closing : Char)
  | mismatched (closing opening : Char) (line : Option Nat)
  | tooDeep
  | continuation
deriving DecidableEq, Repr

def codePointText (c : Char) : List Char :=
  let digits := (Nat.toDigits 16 c.toNat).map Char.toUpper
  "U+".toList ++ List.replicate (4 - digits.length) '0' ++ digits

def TokenError.message : TokenError → List Char
  | openText line =>
    "unterminated string literal (detected at line ".toList ++ natText line ++ ")".toList
  | openBlock line =>
    "unterminated triple-quoted string literal (detected at line ".toList ++ natText line ++
      ")".toList
  | number kind => "invalid ".toList ++ kind.name ++ " literal".toList
  | digit d kind =>
    "invalid digit '".toList ++ d :: "' in ".toList ++ kind.name ++ " literal".toList
  | leadingZeros =>
    "leading zeros in decimal integer literals are not permitted; ".toList ++
      "use an 0o prefix for octal integers".toList
  | character c =>
    if isPrintable c then
      "invalid character '".toList ++ c :: "' (".toList ++ codePointText c ++ ")".toList
    else "invalid non-printable character ".toList ++ codePointText c
  | unmatched closing => "unmatched '".toList ++ closing :: "'".toList
  | mismatched closing opening line =>
    "closing parenthesis '".toList ++ closing ::
      "' does not match opening parenthesis '".toList ++ opening :: "'".toList ++
      match line with
      | some line => " on line ".toList ++ natText line
      | none => []
  | tooDeep => "too many nested parentheses".toList
  | continuation => "unexpected character after line continuation character".toList

namespace Token

abbrev Scan (α : Type) := Except TokenError α

def isDigit (c : Char) : Bool := '0' ≤ c ∧ c ≤ '9'

def startsWith (isFit : Char → Bool) (text : List Char) : Bool := text.head?.any isFit

def decimalTail : List Char → Scan (List Char)
  | '_' :: d :: text => if isDigit d then decimalTail text else .error (.number .decimal)
  | ['_'] => .error (.number .decimal)
  | c :: text => if isDigit c then decimalTail text else .ok (c :: text)
  | [] => .ok []

def radixTail (base : Nat) (kind : NumberKind) (isDue canSkip : Bool) :
    List Char → Scan (List Char)
  | [] => if isDue then .error (.number kind) else .ok []
  | c :: text =>
    if c = '_' ∧ canSkip then radixTail base kind true false text
    else if Numeral.isDigit base c then radixTail base kind false true text
    else if isDigit c then .error (.digit c kind)
    else if isDue then .error (.number kind)
    else .ok (c :: text)

def isNamePart (c : Char) : Bool := isAsciiWord c || 0x80 ≤ c.toNat

def wordsAfterNumber : List (List Char) := ["and", "else", "for", "not", "or"].map String.toList

def endNumber (kind : NumberKind) (text : List Char) : Scan (List Char) :=
  let isJoined := wordsAfterNumber.contains (text.takeWhile isNamePart) ||
    ["if", "in", "is"].any (·.toList.isPrefixOf text)
  if isJoined || !startsWith isAsciiWord text then .ok text else .error (.number kind)

abbrev Cut := Token × List Char

def endReal (text : List Char) : Scan Cut :=
  match text with
  | c :: rest =>
    if c = 'j' ∨ c = 'J' then (endNumber .imaginary rest).map (Token.number true, ·)
    else (endNumber .decimal text).map (Token.number false, ·)
  | [] => .ok (.number false, [])

def exponent (text : List Char) : Scan Cut :=
  match text with
  | e :: rest =>
    if e = 'e' ∨ e = 'E' then
      if startsWith (fun c => c = '+' ∨ c = '-') rest then
        if startsWith isDigit (rest.drop 1) then do endReal (← decimalTail (rest.drop 1))
        else .error (.number .decimal)
      else if startsWith isDigit rest then do endReal (← decimalTail rest)
      else (endNumber .decimal text).map (Token.number false, ·)
    else endReal text
  | [] => endReal text

def optionalTail (text : List Char) : Scan (List Char) :=
  if startsWith isDigit text then decimalTail text else .ok text

def fraction (text : List Char) : Scan Cut := do exponent (← optionalTail text)

def afterInteger (text : List Char) : Scan Cut :=
  match text with
  | '.' :: rest => fraction rest
  | _ => exponent text

def zerosTail : List Char → Scan (List Char)
  | '_' :: d :: text =>
    if d = '0' then zerosTail text
    else if isDigit d then .ok (d :: text)
    else .error (.number .decimal)
  | ['_'] => .error (.number .decimal)
  | '0' :: text => zerosTail text
  | text => .ok text

def afterZero (text : List Char) : Scan Cut := do
  let text ← zerosTail text
  let rest ← optionalTail text
  if startsWith (".eEjJ".toList.contains ·) rest then afterInteger rest
  else if startsWith isDigit text then .error .leadingZeros
  else (endNumber .decimal rest).map (Token.number false, ·)

def radixNumber (base : Nat) (kind : NumberKind) (text : List Char) : Scan Cut := do
  return (.number false, ← endNumber kind (← radixTail base kind true true text))

def number? (text : List Char) : Scan Cut :=
  match text with
  | '0' :: c :: rest =>
    if c = 'x' ∨ c = 'X' then radixNumber 16 .hexadecimal rest
    else if c = 'o' ∨ c = 'O' then radixNumber 8 .octal rest
    else if c = 'b' ∨ c = 'B' then radixNumber 2 .binary rest
    else afterZero (c :: rest)
  | _ => do afterInteger (← decimalTail text)

def textTail (quote : Char) (ends : Nat) : List Char → Except Nat (List Char × Nat)
  | '\\' :: c :: text => textTail quote (if c = '\n' then ends + 1 else ends) text
  | c :: text =>
    if c = quote then .ok (text, ends)
    else if c = '\n' then .error ends
    else textTail quote ends text
  | [] => .error ends

def blockTail (quote : Char) (ends : Nat) : List Char → Except Nat (List Char × Nat)
  | '\\' :: c :: text => blockTail quote (if c = '\n' then ends + 1 else ends) text
  | c :: text =>
    if (List.replicate 3 quote).isPrefixOf (c :: text) then .ok (text.drop 2, ends)
    else blockTail quote (if c = '\n' then ends + 1 else ends) text
  | [] => .error ends

def quotedTail (line : Nat) (quote : Char) (text : List Char) : Scan (List Char × Nat) :=
  if (List.replicate 3 quote).isPrefixOf text then
    (blockTail quote line (text.drop 3)).mapError .openBlock
  else (textTail quote line (text.drop 1)).mapError .openText

def isQuote (c : Char) : Bool := c == '"' || c == '\''

def textMarks : List (List Char) :=
  ["b", "u", "r", "f", "br", "rb", "fr", "rf"].map String.toList

def wrongNamePart? : List Char → Option Char
  | [] => none
  | c :: text =>
    if canStartName c then text.find? (!canFollowInName ·) else some c

def signs : List (List Char) :=
  ["**=", "//=", ">>=", "<<=", "...", "**", "//", ">>", "<<", "<=", ">=", "==", "!=", "->", ":=",
    "<>", "+=", "-=", "*=", "/=", "%=", "&=", "|=", "^=", "@="].map String.toList

def signLength (text : List Char) : Nat :=
  ((signs.find? (·.isPrefixOf text)).map List.length).getD 1

def depthLimit : Nat := 200

abbrev Opened := List (Char × Nat)

def closes (opening closing : Char) : Bool :=
  (opening, closing) ∈ [('(', ')'), ('[', ']'), ('\x7b', '\x7d')]

def track (line : Nat) (c : Char) (opened : Opened) : Scan Opened :=
  if c ∈ ['(', '[', '\x7b'] then
    if depthLimit ≤ opened.length then .error .tooDeep else .ok ((c, line) :: opened)
  else if c ∈ [')', ']', '\x7d'] then
    match opened with
    | [] => .error (.unmatched c)
    | (opening, start) :: opened =>
      if closes opening c then .ok opened
      else .error (.mismatched c opening (if start = line then none else some start))
  else .ok opened

def listFrom : Nat → Nat → Opened → List Char → Scan (List Token × Opened)
  | 0, _, opened, _ => .ok ([], opened)
  | _, _, opened, [] => .ok ([], opened)
  | fuel + 1, line, opened, c :: text => do
    let andThen (token : Token) (rest : List Token × Opened) : List Token × Opened :=
      (token :: rest.1, rest.2)
    if c = ' ' ∨ c = '\t' ∨ c = '\x0c' then listFrom fuel line opened text
    else if c = '\n' then
      let rest ← listFrom fuel (line + 1) opened text
      if opened.isEmpty then return andThen (.sign [c]) rest else return rest
    else if c = '#' then listFrom fuel line opened (text.dropWhile (· != '\n'))
    else if isDigit c then
      let (token, rest) ← number? (c :: text)
      return andThen token (← listFrom fuel line opened rest)
    else if c = '.' ∧ startsWith isDigit text then
      let (token, rest) ← fraction text
      return andThen token (← listFrom fuel line opened rest)
    else if isQuote c then
      let (rest, line) ← quotedTail line c (c :: text)
      return andThen (.quotation false false) (← listFrom fuel line opened rest)
    else if isNamePart c then
      let name := c :: text.takeWhile isNamePart
      let rest := text.dropWhile isNamePart
      let mark := name.map Char.toLower
      match rest.head?.filter (fun quote => isQuote quote && textMarks.contains mark) with
      | some quote =>
        let (rest, line) ← quotedTail line quote rest
        let token := Token.quotation (mark.contains 'b') (mark.contains 'f')
        return andThen token (← listFrom fuel line opened rest)
      | none =>
        match wrongNamePart? name with
        | some wrong => throw (.character wrong)
        | none => return andThen (.name name) (← listFrom fuel line opened rest)
    else if c = '\\' then
      match text with
      | '\n' :: text => listFrom fuel (line + 1) opened text
      | _ => return ([.strayContinuation], opened)
    else if !isPrintable c then throw (.character c)
    else
      let sign := (c :: text).take (signLength (c :: text))
      return andThen (.sign sign)
        (← listFrom fuel line (← track line c opened) ((c :: text).drop sign.length))

def list (text : List Char) : Scan (List Token × Opened) := listFrom text.length 1 [] text

end Token

end Parameter

end EnumExport
