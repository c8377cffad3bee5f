import EnumExport.Source.Block
import EnumExport.Source.Statement

namespace EnumExport

open Glyph

variable {α : Type}

def caseWord : List Char := "case".toList

def indirectWord : List Char := "indirect".toList

def afterCaseWord? (gs : List (Glyph α)) : Option (List (Glyph α)) :=
  let word := leadingWord gs
  let rest := afterWord gs
  if word = caseWord then some rest
  else if word = indirectWord then do
    let gs ← afterBlanks? rest
    if leadingWord gs = caseWord then some (afterWord gs) else none
  else none

/-- What follows the opening of a case statement. An attribute that nothing fitting follows may
also end in the word itself, its own name being what is before. -/
def afterCase? (gs : List (Glyph α)) : Option (List (Glyph α)) :=
  match _h : skipBlanks gs with
  | [] => none
  | g :: rest =>
    if g.shown = '@' then
      if startsName rest then
        let word := leadingWord rest
        let after := afterWord rest
        (afterCase? (afterOptionalGroup after)).or
          (if caseWord.isSuffixOf word ∧ word ≠ caseWord then some after else none)
      else none
    else afterCaseWord? (g :: rest)
termination_by gs.length
decreasing_by
  have h1 := length_skipBlanks_le gs
  have h2 := length_afterOptionalGroup_le (afterWord rest)
  have h3 := length_afterWord_le rest
  rw [_h, List.length_cons] at h1
  omega

theorem afterCase?_eq_none {gs : List (Glyph α)} (h : skipBlanks gs = []) :
    afterCase? gs = none := by
  rw [afterCase?]
  split
  · rfl
  · simp_all

theorem afterCase?_of_skipBlanks {gs rest : List (Glyph α)} {g : Glyph α}
    (h : skipBlanks gs = g :: rest) :
    afterCase? gs =
      if g.shown = '@' then
        if startsName rest then
          (afterCase? (afterOptionalGroup (afterWord rest))).or
            (if caseWord.isSuffixOf (leadingWord rest) ∧ leadingWord rest ≠ caseWord then
              some (afterWord rest) else none)
        else none
      else afterCaseWord? (g :: rest) := by
  rw [afterCase?]
  split
  · simp_all
  · simp_all

structure Element (α : Type) where
  name : List (Glyph α)
  rawValue : Option (List (Glyph α))

def elementEnd? (gs : List (Glyph α)) : Option (Option (List (Glyph α))) :=
  match skipBlanks gs with
  | [] => some none
  | g :: rest => if g.shown = '=' then some (some rest) else none

/-- The end of an element after its associated values, which reach to the last closing parenthesis
that an end can follow. -/
def associatedEnd? : List (Glyph α) → Option (Option (List (Glyph α)))
  | [] => none
  | g :: rest =>
    (associatedEnd? rest).or (if g.shown = ')' then elementEnd? rest else none)

def element? (gs : List (Glyph α)) : Option (Element α) := do
  let (name, rest) ← spanName? Glyph.isWord (skipBlanks gs)
  match skipBlanks rest with
  | [] => return ⟨name, none⟩
  | g :: tail =>
    if g.shown = '(' then return ⟨name, ← associatedEnd? tail⟩
    else return ⟨name, ← elementEnd? (g :: tail)⟩

def caseElements (inside : List (Glyph α)) : List (Element α) :=
  ((statements (flatten inside)).filterMap afterCase?).flatMap fun statement =>
    (elements statement).filterMap element?

end EnumExport
