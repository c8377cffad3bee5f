import EnumExport.Text.DecimalDigit
import EnumExport.Text.Word

/-!
Patterns of text, matched from left to right with the first way that succeeds. The parts of a
pattern can be marked, and a match tells where each marked part was found.
-/

namespace EnumExport

inductive Pattern where
  | empty
  | one (isFit : Char → Bool)
  | between (isFit : Option Char → Option Char → Bool)
  | both (first second : Pattern)
  | either (first second : Pattern)
  | many (greedy : Bool) (body : Pattern)
  | marked (body : Pattern)

namespace Pattern

structure Found where
  before : Option Char
  rest : List Char
  place : Nat
  marks : List (Nat × Nat) := []

abbrev Next := Found → Option Found

def repeatStep (greedy : Bool) (step : Next → Next) : Nat → Next → Next
  | 0, next, found => next found
  | n + 1, next, found =>
    let more := step fun after =>
      if found.place < after.place then repeatStep greedy step n next after else none
    if greedy then (more found).orElse fun () => next found
    else (next found).orElse fun () => more found

def run : Pattern → Next → Next
  | empty, next, found => next found
  | one isFit, next, found =>
    match found.rest with
    | [] => none
    | c :: rest =>
      if isFit c then next { found with before := some c, rest := rest, place := found.place + 1 }
      else none
  | between isFit, next, found =>
    if isFit found.before found.rest.head? then next found else none
  | both first second, next, found => first.run (fun after => second.run next after) found
  | either first second, next, found =>
    (first.run next found).orElse fun () => second.run next found
  | many greedy body, next, found =>
    repeatStep greedy (fun next found => body.run next found) found.rest.length next found
  | marked body, next, found =>
    body.run (fun after => next { after with marks := (found.place, after.place) :: after.marks })
      found

def marksFrom (pattern : Pattern) : Nat → Option Char → List Char → Nat → List (Nat × Nat)
  | 0, _, _, _ => []
  | fuel + 1, before, text, place =>
    match pattern.run some ⟨before, text, place, []⟩ with
    | some found =>
      if place < found.place then
        found.marks ++ pattern.marksFrom fuel found.before found.rest found.place
      else match text with
        | [] => found.marks
        | c :: text => found.marks ++ pattern.marksFrom fuel (some c) text (place + 1)
    | none =>
      match text with
      | [] => []
      | c :: text => pattern.marksFrom fuel (some c) text (place + 1)

def marks (pattern : Pattern) (text : List Char) : List (Nat × Nat) :=
  pattern.marksFrom (text.length + 1) none text 0

def sequence (patterns : List Pattern) : Pattern := patterns.foldr both empty

def choice : List Pattern → Pattern
  | [] => one fun _ => false
  | [pattern] => pattern
  | pattern :: patterns => either pattern (choice patterns)

def char (c : Char) : Pattern := one (· == c)

def literal (text : String) : Pattern := sequence (text.toList.map char)

def anyOf (chars : String) : Pattern := one chars.toList.contains

def optional (pattern : Pattern) : Pattern := either pattern empty

def repeated (pattern : Pattern) : Pattern := both pattern (many true pattern)

def atMost : Nat → Pattern → Pattern
  | 0, _ => empty
  | n + 1, pattern => optional (both pattern (atMost n pattern))

def exactly (n : Nat) (pattern : Pattern) : Pattern := sequence (List.replicate n pattern)

def upTo (n : Nat) (pattern : Pattern) : Pattern := both pattern (atMost (n - 1) pattern)

def wordEdge : Pattern := between fun before after => before.any isWord != after.any isWord

def noWordEdge : Pattern := between fun before after => before.any isWord == after.any isWord

def notAfter (isFit : Char → Bool) : Pattern := between fun before _ => !before.any isFit

end Pattern

end EnumExport
