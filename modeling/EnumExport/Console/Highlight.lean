import EnumExport.Console.StyledText
import EnumExport.Text.Pattern

namespace EnumExport

namespace Highlight

open Pattern

def wordChar : Pattern := one isWord

def digit : Pattern := anyOf "0123456789"

def hexDigit : Pattern := anyOf "0123456789abcdefABCDEF"

def element : Pattern :=
  sequence [marked (char '<'),
    marked (many true (one fun c => isWord c || "-.:|".toList.contains c)),
    marked (many true (one fun _ => true)), marked (char '>')]

def nameAndValue : Pattern :=
  sequence [marked (upTo 50 wordChar), char '=',
    optional (marked (sequence [optional (char '"'), repeated wordChar, optional (char '"')]))]

def brace : Pattern := marked (anyOf "][\x7b\x7d()")

def groups (count : Nat) (group separator : Pattern) : Pattern :=
  both (exactly (count - 1) (both group separator)) group

def address4 : Pattern := marked (groups 4 (upTo 3 digit) (char '.'))

def address6 : Pattern :=
  let group := upTo 4 hexDigit
  marked (both (upTo 7 (sequence [group, char ':', optional (char ':')])) group)

def deviceAddress (pairs : Nat) : Pattern :=
  let pair := upTo 2 hexDigit
  marked (choice [groups pairs pair (char '-'), groups pairs pair (char ':'),
    groups (pairs / 2) (exactly 4 hexDigit) (char '.')])

def identifier : Pattern :=
  let group (n : Nat) : Pattern := both (exactly n hexDigit) (char '-')
  marked (sequence [group 8, group 4, group 4, group 4, exactly 12 hexDigit])

def call : Pattern :=
  both (marked (many false (one fun c => isWord c || c == '.'))) (char '(')

def constant : Pattern :=
  choice (["True", "False", "None"].map fun name =>
    sequence [wordEdge, marked (literal name), wordEdge])

def sign : Pattern := anyOf "-+"

def magnitude : Pattern := sequence [repeated digit, optional (char '.'), many true digit]

def anyDigit : Pattern := one isDecimalDigit

def fewDigits : Pattern := both anyDigit (many false anyDigit)

def exponent (digits : Pattern) : Pattern :=
  optional (sequence [char 'e', optional sign, digits])

def complexNumber : Pattern :=
  marked (sequence [notAfter isWord, optional (char '-'), magnitude, exponent fewDigits,
    optional (sequence [sign, magnitude, exponent (repeated anyDigit)]), char 'j'])

def number : Pattern :=
  marked (either
    (sequence [notAfter isWord, optional (char '-'), magnitude, exponent fewDigits, wordEdge])
    (both (literal "0x") (many true hexDigit)))

def filePath : Pattern :=
  let nameChar := one fun c => isWord c || "-._+".toList.contains c
  both
    (marked (sequence [noWordEdge, many true (both (char '/') (repeated nameChar)), char '/']))
    (marked (many true nameChar))

def quotation : Pattern :=
  let between (quote : String) : Pattern :=
    sequence [optional (char 'b'), literal quote, many false (one (· != '\n')),
      notAfter (· == '\\'), literal quote]
  both (notAfter fun c => c == '\\' || isWord c)
    (marked (choice (["'''", "'", "\"\"\"", "\""].map between)))

def link : Pattern :=
  let isPart (c : Char) : Bool :=
    (c.toNat < 0x80 && c.isAlphanum) || "-$_+!`(),.?/;:&=%#~@".toList.contains c
  marked (sequence [choice (["file", "https", "http", "ws", "wss"].map literal), literal "://",
    many true (one isPart)])

def patterns : List Pattern :=
  [element, nameAndValue, brace,
    choice [address4, address6, deviceAddress 8, deviceAddress 6, identifier, call, constant,
      marked (literal "..."), complexNumber, number, filePath, quotation, link]]

def spans (text : List Char) : List Span :=
  (patterns.flatMap (·.marks text)).filterMap fun (start, stop) =>
    if start < stop then some ⟨start, stop, []⟩ else none

end Highlight

def StyledText.highlighted (styled : StyledText) : StyledText :=
  { styled with spans := Highlight.spans styled.text ++ styled.spans }

end EnumExport
