import EnumExport.Source.Declaration
import EnumExport.Source.Glyph

namespace EnumExport

open Glyph

variable {α : Type}

def modifiers : List (List Char) :=
  ["public".toList, "private".toList, "fileprivate".toList, "internal".toList, "package".toList,
    "open".toList, "final".toList, "indirect".toList, "nonisolated".toList]

structure Header (α : Type) where
  kind : DeclarationKind
  name : List (Glyph α)
  rest : List (Glyph α)

def afterSetter? (gs : List (Glyph α)) : Option (List (Glyph α)) :=
  match skipBlanks gs with
  | [] => none
  | g :: rest =>
    if g.shown = '(' then
      let inner := skipBlanks rest
      if text (inner.take 3) = "set".toList then
        match skipBlanks (inner.drop 3) with
        | [] => none
        | g :: rest => if g.shown = ')' then some rest else none
      else none
    else none

def afterOptionalSetter (gs : List (Glyph α)) : List (Glyph α) := (afterSetter? gs).getD gs

theorem length_afterOptionalSetter_le (gs : List (Glyph α)) :
    (afterOptionalSetter gs).length ≤ gs.length := by
  unfold afterOptionalSetter
  cases h : afterSetter? gs with
  | none => simp
  | some rest =>
    have h1 := length_skipBlanks_le gs
    unfold afterSetter? at h
    split at h
    · simp at h
    · rename_i g tail hg
      have h2 := length_skipBlanks_le tail
      have h3 := length_skipBlanks_le ((skipBlanks tail).drop 3)
      grind

def keywordAndName? (gs : List (Glyph α)) : Option (Header α) := do
  let kind ← DeclarationKind.ofKeyword? (leadingWord gs)
  let named ← afterBlanks? (afterWord gs)
  let (name, rest) ← spanName? isQualified named
  return ⟨kind, name, rest⟩

def headerItems? (gs : List (Glyph α)) : Option (Header α) :=
  match _h : afterBlanks? gs with
  | none => none
  | some [] => none
  | some (g :: rest) =>
    if g.shown = '@' then
      if startsName rest then headerItems? (afterOptionalGroup (rest.dropWhile isQualified))
      else none
    else if leadingWord (g :: rest) ∈ modifiers then
      headerItems? (afterOptionalSetter (afterWord (g :: rest)))
    else keywordAndName? (g :: rest)
termination_by gs.length
decreasing_by
  all_goals have hlt := length_afterBlanks?_lt _h
  · have h1 := length_afterOptionalGroup_le (rest.dropWhile isQualified)
    have h2 := (@List.dropWhile_sublist _ rest isQualified).length_le
    simp only [List.length_cons] at hlt
    omega
  · have h1 := length_afterOptionalSetter_le (afterWord (g :: rest))
    have h2 := length_afterWord_le (g :: rest)
    omega

def header? (gs : List (Glyph α)) : Option (Header α) := headerItems? (afterOptionalGroup gs)

end EnumExport
