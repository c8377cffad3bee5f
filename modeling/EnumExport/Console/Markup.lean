import EnumExport.Console.Emoji
import EnumExport.Console.Handler
import EnumExport.Console.Style
import EnumExport.Console.StyledText

/-!
Console markup: text with style tags in brackets. A bracket opens a tag if a lower-case letter, a
number sign, a slash or an at sign follows and it is closed before the next one opens. Backslashes
in front of a tag come in pairs, each standing for one, and an odd one out makes the tag plain text.
-/

namespace EnumExport

namespace Markup

def opensTag (c : Char) : Bool :=
  ('a' ≤ c ∧ c ≤ 'z') || c == '#' || c == '/' || c == '@'

def isInside (c : Char) : Bool := c != '[' && c != ']'

structure Match where
  backslashes : Nat
  inner : List Char
  rest : List Char

def insideTag? : List Char → Option (List Char × List Char)
  | [] => none
  | c :: text =>
    if opensTag c then
      match text.dropWhile isInside with
      | ']' :: rest => some (c :: text.takeWhile isInside, rest)
      | _ => none
    else none

def match? (text : List Char) : Option Match :=
  match text.dropWhile (· == '\\') with
  | '[' :: inside =>
    (insideTag? inside).map fun (inner, rest) =>
      ⟨(text.takeWhile (· == '\\')).length, inner, rest⟩
  | _ => none

theorem length_insideTag?_lt {text inner rest : List Char}
    (h : insideTag? text = some (inner, rest)) : rest.length < text.length := by
  unfold insideTag? at h
  split at h
  · simp at h
  · rename_i c tail
    split at h
    · have hle := (@List.dropWhile_sublist _ tail isInside).length_le
      split at h
      · rename_i r hr
        simp only [Option.some.injEq, Prod.mk.injEq] at h
        obtain ⟨-, rfl⟩ := h
        rw [hr] at hle
        simp only [List.length_cons] at hle ⊢
        omega
      · simp at h
    · simp at h

theorem length_match?_lt {text : List Char} {m : Match} (h : match? text = some m) :
    m.rest.length < text.length := by
  have hle := (@List.dropWhile_sublist _ text (· == '\\')).length_le
  unfold match? at h
  split at h
  · rename_i inside hi
    obtain ⟨⟨inner, rest⟩, hr, rfl⟩ := Option.map_eq_some_iff.mp h
    have := length_insideTag?_lt hr
    rw [hi, List.length_cons] at hle
    simp only
    omega
  · simp at h

def backslashes (n : Nat) : List Char := List.replicate n '\\'

def escapeTags (text : List Char) : List Char :=
  match _h : match? text with
  | some m =>
    backslashes (2 * m.backslashes + 1) ++ '[' :: m.inner ++ ']' :: escapeTags m.rest
  | none =>
    match text with
    | [] => []
    | c :: rest => c :: escapeTags rest
termination_by text.length
decreasing_by
  · exact length_match?_lt _h
  · simp

def endsInBackslash (text : List Char) : Bool :=
  match text.reverse with
  | '\\' :: '\\' :: _ => false
  | '\\' :: _ => true
  | _ => false

/-- Markup for a text in which no group is to be taken for a tag. A backslash at the end is doubled,
lest it escape a tag that is put after it. -/
def escape (text : List Char) : List Char :=
  let escaped := escapeTags text
  if endsInBackslash escaped then escaped ++ ['\\'] else escaped

inductive Piece where
  | plain (text : List Char)
  | tag (position : Nat) (inner : List Char)
deriving DecidableEq, Repr

def plainPiece (text : List Char) : List Piece := if text.isEmpty then [] else [.plain text]

def matchPieces (position : Nat) (m : Match) : List Piece :=
  let literal := plainPiece (backslashes (m.backslashes / 2))
  if m.backslashes % 2 = 1 then literal ++ [.plain ('[' :: m.inner ++ [']'])]
  else literal ++ [.tag (position + m.backslashes) m.inner]

def piecesFrom (position : Nat) (plain : List Char) (text : List Char) : List Piece :=
  match _h : match? text with
  | some m =>
    plainPiece plain.reverse ++ matchPieces position m ++
      piecesFrom (position + (text.length - m.rest.length)) [] m.rest
  | none =>
    match text with
    | [] => plainPiece plain.reverse
    | c :: rest => piecesFrom (position + 1) (c :: plain) rest
termination_by text.length
decreasing_by
  · exact length_match?_lt _h
  · simp

def pieces (text : List Char) : List Piece := piecesFrom 0 [] text

def dropBracketEscapes : List Char → List Char
  | '\\' :: '[' :: text => '[' :: dropBracketEscapes text
  | c :: text => c :: dropBracketEscapes text
  | [] => []

def isDevice (c : Char) : Bool :=
  c.toNat == 7 || c.toNat == 8 || c.toNat == 11 || c.toNat == 12 || c.toNat == 13

def dropDevices (text : List Char) : List Char := text.filter (!isDevice ·)

def plainShown (text : List Char) : List Char :=
  dropDevices (Emoji.replace (dropBracketEscapes text))

end Markup

inductive MarkupError where
  | nothingOpen (position : Nat)
  | notOpen (position : Nat) (tag : List Char)
  | handler (error : HandlerError)
  | numeral (error : NumeralError)
deriving DecidableEq, Repr

def MarkupError.message : MarkupError → List Char
  | nothingOpen position =>
    "closing tag '[/]' at position ".toList ++ natText position ++ " has nothing to close".toList
  | notOpen position tag =>
    "closing tag '[".toList ++ tag ++ "]' at position ".toList ++ natText position ++
      " doesn't match any open tag".toList
  | handler error => error.message
  | numeral error => error.message

namespace Markup

structure OpenTag where
  name : List Char
  parameters : List Char
  start : Nat
deriving DecidableEq, Repr

namespace OpenTag

def isHandler (tag : OpenTag) : Bool := tag.name.head? = some '@'

def style (tag : OpenTag) : List Char :=
  if tag.isHandler then []
  else match tag.parameters with
    | [] => tag.name
    | _ :: parameters => tag.name ++ ' ' :: parameters

def spanTo (tag : OpenTag) (stop : Nat) : Span := ⟨tag.start, stop, tag.style⟩

end OpenTag

def styleName (text : List Char) : Except MarkupError (List Char) :=
  (Style.normalName text).mapError .numeral

def splitParameters (inner : List Char) : List Char × List Char :=
  (inner.takeWhile (· != '='), inner.dropWhile (· != '='))

def takeOpen (position : Nat) (inner name : List Char) (opened : List OpenTag) :
    Except MarkupError (OpenTag × List OpenTag) := do
  if name.isEmpty then
    match opened with
    | [] => throw (.nothingOpen position)
    | tag :: opened => return (tag, opened)
  else
    let name ← styleName name
    match opened.find? (·.name = name) with
    | none => throw (.notOpen position inner)
    | some tag => return (tag, opened.erase tag)

def close (tag : OpenTag) (stop : Nat) : Except MarkupError Span := do
  if tag.isHandler then (Handler.check (tag.parameters.drop 1)).mapError .handler
  return tag.spanTo stop

def renderFrom (place : Nat) (opened : List OpenTag) : List Piece → Except MarkupError StyledText
  | [] => .ok ⟨[], opened.map (·.spanTo place)⟩
  | .plain text :: rest => do
    let text := plainShown text
    let styled ← renderFrom (place + text.length) opened rest
    return ⟨text ++ styled.text, styled.spans⟩
  | .tag position inner :: rest => do
    match splitParameters inner with
    | ('/' :: name, _) =>
      let (tag, opened) ← takeOpen position inner (trim name) opened
      let span ← close tag place
      let styled ← renderFrom place opened rest
      return ⟨styled.text, span :: styled.spans⟩
    | (name, parameters) => renderFrom place (⟨← styleName name, parameters, place⟩ :: opened) rest

def lookUpOrder (spans : List Span) : List Span :=
  spans.reverse.mergeSort fun a b => a.start ≤ b.start

def render (text : List Char) : Except MarkupError StyledText := do
  let styled ← renderFrom 0 [] (pieces text)
  (lookUpOrder styled.spans).forM fun span => (Style.lookUp span.style).mapError .numeral
  return styled

def shown (text : List Char) : Except MarkupError (List Char) := (render text).map (·.text)

end Markup

end EnumExport
