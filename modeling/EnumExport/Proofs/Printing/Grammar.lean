import EnumExport.Proofs.Lists
import EnumExport.Proofs.Literals.Expressions
import EnumExport.Source.Reader

/-!
Printed enums: what a printer may choose when it writes an enum down, and the text it then writes.
Names may be in backticks, cases may have associated values and raw values, several cases may share
one statement, and around every comma and equals sign there may be blanks of any kind and number.
-/

namespace EnumExport

structure Identifier where
  first : Char
  more : List Char
  isNameStart_first : isNameStart first = true
  isWord_more : ∀ c ∈ more, isWord c = true

def Identifier.of (first : Char) (more : List Char)
    (h : (isNameStart first && more.all isWord) = true) : Identifier where
  first := first
  more := more
  isNameStart_first := (Bool.and_eq_true_iff.mp h).1
  isWord_more := List.all_eq_true.mp (Bool.and_eq_true_iff.mp h).2

def Identifier.text (name : Identifier) : List Char := name.first :: name.more

inductive WellNested : List Char → Prop
  | nil : WellNested []
  | plain {c : Char} {text : List Char} : opensGroup c = false → closesGroup c = false →
      WellNested text → WellNested (c :: text)
  | round {inner text : List Char} : WellNested inner → WellNested text →
      WellNested ('(' :: inner ++ ')' :: text)
  | square {inner text : List Char} : WellNested inner → WellNested text →
      WellNested ('[' :: inner ++ ']' :: text)

def isStop (c : Char) : Bool := ['"', '/', '@', '{', '}'].contains c

structure AssociatedValues where
  inner : List Char
  wellNested : WellNested inner
  notStop : ∀ c ∈ inner, isStop c = false

def AssociatedValues.text (values : AssociatedValues) : List Char := '(' :: values.inner ++ [')']

def isSpacing (c : Char) : Bool := c == ' ' || c == '\t' || c == '\n'

abbrev Spacing := { text : List Char // ∀ c ∈ text, isSpacing c = true }

def Spacing.of (text : List Char) (h : text.all isSpacing = true) : Spacing :=
  ⟨text, List.all_eq_true.mp h⟩

structure Joint where
  before : Spacing
  after : Spacing

def Joint.text (joint : Joint) (mark : Char) : List Char :=
  joint.before.val ++ mark :: joint.after.val

structure Assignment where
  joint : Joint
  signed : SignedLiteral
  notOverlong : ¬ signed.literal.IsOverlong

def Assignment.text (assignment : Assignment) : List Char :=
  assignment.joint.text '=' ++ assignment.signed.text

structure PrintedCase where
  name : Identifier
  ticked : Bool
  values : Option AssociatedValues
  assignment : Option Assignment

namespace PrintedCase

def writtenName (printed : PrintedCase) : List Char :=
  if printed.ticked then tick :: printed.name.text ++ [tick] else printed.name.text

def afterName (printed : PrintedCase) : List Char :=
  (printed.values.map AssociatedValues.text).getD [] ++
    (printed.assignment.map Assignment.text).getD []

def text (printed : PrintedCase) : List Char := printed.writtenName ++ printed.afterName

def meaning (printed : PrintedCase) : EnumCase :=
  ⟨printed.name.text, printed.assignment.map fun assignment => assignment.signed.expression⟩

end PrintedCase

structure PrintedStatement where
  moreSpaces : Nat
  first : PrintedCase
  more : List (Joint × PrintedCase)

namespace PrintedStatement

def cases (statement : PrintedStatement) : List PrintedCase :=
  statement.first :: statement.more.map Prod.snd

def moreText (more : List (Joint × PrintedCase)) : List Char :=
  more.flatMap fun (joint, printed) => joint.text ',' ++ printed.text

def afterKeyword (statement : PrintedStatement) : List Char :=
  ' ' :: List.replicate statement.moreSpaces ' ' ++
    (statement.first.text ++ moreText statement.more)

def text (statement : PrintedStatement) : List Char := caseWord ++ statement.afterKeyword

end PrintedStatement

def endsStatement (c : Char) : Bool := c == ';' || c == '\n'

abbrev Gap := { text : List Char // ∀ c ∈ text, isSpacing c = true ∨ endsStatement c = true }

abbrev Separator := { c : Char // endsStatement c = true }

inductive PrintedBody where
  | blank (gap : Gap)
  | last (before : Gap) (statement : PrintedStatement) (after : Gap)
  | more (before : Gap) (statement : PrintedStatement) (after : Gap) (separator : Separator)
      (rest : PrintedBody)

namespace PrintedBody

def statements : PrintedBody → List PrintedStatement
  | blank _ => []
  | last _ statement _ => [statement]
  | more _ statement _ _ rest => statement :: rest.statements

def cases (body : PrintedBody) : List PrintedCase :=
  body.statements.flatMap PrintedStatement.cases

def text : PrintedBody → List Char
  | blank gap => gap.val
  | last before statement after => before.val ++ (statement.text ++ after.val)
  | more before statement after separator rest =>
    before.val ++ (statement.text ++ (after.val ++ separator.val :: rest.text))

end PrintedBody

structure PrintedEnum where
  marker : Identifier
  name : Identifier
  body : PrintedBody

namespace PrintedEnum

def afterName (printed : PrintedEnum) : List Char :=
  ": Int ".toList ++ '{' :: (printed.body.text ++ ['}'])

def afterMarker (printed : PrintedEnum) : List Char :=
  "\nenum ".toList ++ (printed.name.text ++ printed.afterName)

theorem afterName_eq (printed : PrintedEnum) :
    printed.afterName = ": Int ".toList ++ '{' :: (printed.body.text ++ ['}']) := rfl

theorem afterMarker_eq (printed : PrintedEnum) :
    printed.afterMarker = "\nenum ".toList ++ (printed.name.text ++ printed.afterName) := rfl

def text (printed : PrintedEnum) : List Char :=
  '@' :: (printed.marker.text ++ printed.afterMarker)

def cases (printed : PrintedEnum) : List EnumCase := printed.body.cases.map PrintedCase.meaning

end PrintedEnum

end EnumExport
