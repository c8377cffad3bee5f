import EnumExport.Text.Blank

/-!
The lexemes of a source text: string literals, comments, and single characters of code. A literal
or comment that is not closed is no lexeme, so its first character counts as code.
-/

namespace EnumExport

inductive Lexeme where
  | code (c : Char)
  | string (inner : List Char)
  | comment (inner : List Char)
deriving DecidableEq, Repr

namespace Lexeme

def cutAfter (mark : List Char) : List Char → Option (List Char × List Char)
  | [] => if mark.isEmpty then some ([], []) else none
  | c :: text =>
    if mark.isPrefixOf (c :: text) then some (mark, (c :: text).drop mark.length)
    else (cutAfter mark text).map fun (piece, rest) => (c :: piece, rest)

theorem cutAfter_append {mark text piece rest : List Char}
    (h : cutAfter mark text = some (piece, rest)) : piece ++ rest = text := by
  induction text generalizing piece with
  | nil =>
    simp only [cutAfter] at h
    split at h <;> simp_all
  | cons c text ih =>
    simp only [cutAfter] at h
    split at h
    · rename_i hm
      obtain ⟨t, ht⟩ := List.isPrefixOf_iff_prefix.mp hm
      simp only [Option.some.injEq, Prod.mk.injEq] at h
      obtain ⟨rfl, rfl⟩ := h
      rw [← ht]
      simp
    · obtain ⟨⟨p, r⟩, hp, he⟩ := Option.map_eq_some_iff.mp h
      simp only [Prod.mk.injEq] at he
      obtain ⟨rfl, rfl⟩ := he
      simp [ih hp]

def cutString : List Char → Option (List Char × List Char)
  | [] => none
  | '\\' :: c :: text =>
    if c = '\n' then none
    else (cutString text).map fun (inner, rest) => ('\\' :: c :: inner, rest)
  | c :: text =>
    if c = '"' then some ([], text)
    else if c = '\n' ∨ c = '\\' then none
    else (cutString text).map fun (inner, rest) => (c :: inner, rest)

theorem cutString_append {text inner rest : List Char}
    (h : cutString text = some (inner, rest)) : inner ++ '"' :: rest = text := by
  fun_induction cutString text generalizing inner with
  | case1 => simp at h
  | case2 => simp at h
  | case3 c text hc ih =>
    obtain ⟨⟨i, r⟩, hi, he⟩ := Option.map_eq_some_iff.mp h
    simp only [Prod.mk.injEq] at he
    obtain ⟨rfl, rfl⟩ := he
    simp [ih hi]
  | case4 => simp_all
  | case5 => simp at h
  | case6 c text _ _ _ ih =>
    obtain ⟨⟨i, r⟩, hi, he⟩ := Option.map_eq_some_iff.mp h
    simp only [Prod.mk.injEq] at he
    obtain ⟨rfl, rfl⟩ := he
    simp [ih hi]

def written : Lexeme → List Char
  | code c => [c]
  | string inner => '"' :: inner ++ ['"']
  | comment inner => '/' :: inner

def blockString? : List Char → Option (Lexeme × List Char)
  | '"' :: '"' :: text =>
    (cutAfter ['"', '"', '"'] text).map fun (piece, rest) =>
      (string ('"' :: '"' :: piece.dropLast), rest)
  | _ => none

def lineString? (text : List Char) : Option (Lexeme × List Char) :=
  (cutString text).map fun (inner, rest) => (string inner, rest)

def lineComment? : List Char → Option (Lexeme × List Char)
  | '/' :: text =>
    some (comment ('/' :: text.takeWhile (· != '\n')), text.dropWhile (· != '\n'))
  | _ => none

def blockComment? : List Char → Option (Lexeme × List Char)
  | '*' :: text =>
    (cutAfter ['*', '/'] text).map fun (piece, rest) => (comment ('*' :: piece), rest)
  | _ => none

def hidden? (c : Char) (text : List Char) : Option (Lexeme × List Char) :=
  if c = '"' then (blockString? text).or (lineString? text)
  else if c = '/' then (lineComment? text).or (blockComment? text)
  else none

def next (c : Char) (text : List Char) : Lexeme × List Char :=
  (hidden? c text).getD (code c, text)

theorem cutAfter_ends {mark text piece rest : List Char}
    (h : cutAfter mark text = some (piece, rest)) : mark <:+ piece := by
  induction text generalizing piece with
  | nil =>
    simp only [cutAfter] at h
    split at h <;> simp_all
  | cons c text ih =>
    simp only [cutAfter] at h
    split at h
    · simp_all
    · obtain ⟨⟨p, r⟩, hp, he⟩ := Option.map_eq_some_iff.mp h
      simp only [Prod.mk.injEq] at he
      obtain ⟨rfl, rfl⟩ := he
      exact (ih hp).trans (List.suffix_cons c p)

theorem blockString?_written {text rest : List Char} {lexeme : Lexeme}
    (h : blockString? text = some (lexeme, rest)) : lexeme.written ++ rest = '"' :: text := by
  unfold blockString? at h
  split at h
  · rename_i text
    obtain ⟨⟨piece, r⟩, hp, he⟩ := Option.map_eq_some_iff.mp h
    simp only [Prod.mk.injEq] at he
    obtain ⟨rfl, rfl⟩ := he
    obtain ⟨front, rfl⟩ := cutAfter_ends hp
    have := cutAfter_append hp
    simp [written, List.dropLast_append_of_ne_nil, ← this]
  · simp at h

theorem lineString?_written {text rest : List Char} {lexeme : Lexeme}
    (h : lineString? text = some (lexeme, rest)) : lexeme.written ++ rest = '"' :: text := by
  obtain ⟨⟨inner, r⟩, hp, he⟩ := Option.map_eq_some_iff.mp h
  simp only [Prod.mk.injEq] at he
  obtain ⟨rfl, rfl⟩ := he
  simp [written, ← cutString_append hp]

theorem lineComment?_written {text rest : List Char} {lexeme : Lexeme}
    (h : lineComment? text = some (lexeme, rest)) : lexeme.written ++ rest = '/' :: text := by
  unfold lineComment? at h
  split at h
  · simp only [Option.some.injEq, Prod.mk.injEq] at h
    obtain ⟨rfl, rfl⟩ := h
    simp [written]
  · simp at h

theorem blockComment?_written {text rest : List Char} {lexeme : Lexeme}
    (h : blockComment? text = some (lexeme, rest)) : lexeme.written ++ rest = '/' :: text := by
  unfold blockComment? at h
  split at h
  · obtain ⟨⟨piece, r⟩, hp, he⟩ := Option.map_eq_some_iff.mp h
    simp only [Prod.mk.injEq] at he
    obtain ⟨rfl, rfl⟩ := he
    simp [written, ← cutAfter_append hp]
  · simp at h

theorem hidden?_written {c : Char} {text rest : List Char} {lexeme : Lexeme}
    (h : hidden? c text = some (lexeme, rest)) : lexeme.written ++ rest = c :: text := by
  unfold hidden? at h
  split at h
  · subst c
    rcases Option.or_eq_some_iff.mp h with h | ⟨_, h⟩
    · exact blockString?_written h
    · exact lineString?_written h
  · split at h
    · subst c
      rcases Option.or_eq_some_iff.mp h with h | ⟨_, h⟩
      · exact lineComment?_written h
      · exact blockComment?_written h
    · simp at h

theorem next_written (c : Char) (text : List Char) :
    (next c text).1.written ++ (next c text).2 = c :: text := by
  unfold next
  cases h : hidden? c text with
  | none => rfl
  | some found => exact hidden?_written h

theorem written_length (lexeme : Lexeme) : 0 < lexeme.written.length := by
  cases lexeme <;> simp [written]

theorem next_length (c : Char) (text : List Char) : (next c text).2.length < text.length + 1 := by
  have hw := congrArg List.length (next_written c text)
  have := written_length (next c text).1
  simp only [List.length_append, List.length_cons] at hw
  omega

end Lexeme

/-- The lexemes of a source text, each the first that fits where the one before it ended. -/
def lexemes : List Char → List Lexeme
  | [] => []
  | c :: text => (Lexeme.next c text).1 :: lexemes (Lexeme.next c text).2
termination_by text => text.length
decreasing_by exact Lexeme.next_length c text

theorem flatMap_written_lexemes (text : List Char) :
    (lexemes text).flatMap Lexeme.written = text := by
  fun_induction lexemes text with
  | case1 => rfl
  | case2 c text ih => rw [List.flatMap_cons, ih, Lexeme.next_written]

end EnumExport
