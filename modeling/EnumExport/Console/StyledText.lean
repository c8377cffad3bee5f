import EnumExport.Console.Cells

/-!
Styled text: text with spans that have a style of their own. The styles themselves are not shown,
but a console measures what stands between two changes of style on its own, so that a picture
joined across a change is counted twice.
-/

namespace EnumExport

structure Span where
  start : Nat
  stop : Nat
  style : List Char := []
deriving DecidableEq, Repr

namespace Span

def shift (offset : Nat) (span : Span) : Span :=
  { span with start := span.start + offset, stop := span.stop + offset }

def within? (first last : Nat) (span : Span) : Option Span :=
  let start := max span.start first
  let stop := min span.stop last
  if start < stop then some { span with start := start - first, stop := stop - first } else none

end Span

structure StyledText where
  text : List Char
  spans : List Span := []
deriving DecidableEq, Repr

namespace StyledText

def append (a b : StyledText) : StyledText :=
  ⟨a.text ++ b.text, a.spans ++ b.spans.map (Span.shift a.text.length)⟩

def slice (styled : StyledText) (first last : Nat) : StyledText :=
  ⟨(styled.text.take last).drop first, styled.spans.filterMap (Span.within? first last)⟩

def divideFrom (styled : StyledText) (first : Nat) : List Nat → List StyledText
  | [] => [styled.slice first styled.text.length]
  | place :: places => styled.slice first place :: styled.divideFrom place places

def divide (styled : StyledText) (places : List Nat) : List StyledText :=
  if places.isEmpty then [styled] else styled.divideFrom 0 places

def withText (styled : StyledText) (text : List Char) : StyledText :=
  if text.length < styled.text.length then
    ⟨text, (styled.spans.filter (·.start < text.length)).map fun span =>
      { span with stop := min span.stop text.length }⟩
  else ⟨text, styled.spans⟩

def expandTabs (styled : StyledText) : StyledText :=
  let moved (place : Nat) : Nat := (EnumExport.expandTabs (styled.text.take place)).length
  ⟨EnumExport.expandTabs styled.text, styled.spans.map fun span =>
    { span with start := moved span.start, stop := moved span.stop }⟩

def shorten (cells : Nat) (styled : StyledText) : StyledText :=
  styled.withText (EnumExport.shorten cells styled.text)

def runsFrom (place : Nat) : List Nat → List Char → List (List Char)
  | [], text => [text]
  | next :: places, text =>
    text.take (next - place) :: runsFrom next places (text.drop (next - place))

def runs (styled : StyledText) : List (List Char) :=
  runsFrom 0 (styled.spans.flatMap fun span => [span.start, span.stop]).mergeSort styled.text

def runCells (styled : StyledText) : Nat := styled.runs.foldr (textCells · + ·) 0

def cropRuns : Nat → List (List Char) → List Char
  | _, [] => []
  | room, run :: runs =>
    if textCells run < room then run ++ cropRuns (room - textCells run) runs
    else fitCells room run

def cropped (cells : Nat) (styled : StyledText) : List Char :=
  if styled.runCells ≤ cells then styled.text else cropRuns cells styled.runs

def filled (cells : Nat) (styled : StyledText) : List Char :=
  styled.cropped cells ++ spaces (cells - styled.runCells)

end StyledText

end EnumExport
