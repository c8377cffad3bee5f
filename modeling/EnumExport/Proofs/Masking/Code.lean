import EnumExport.Proofs.Masking.FirstLexeme

namespace EnumExport

/-- The character at this place is a lexeme of its own, so no literal and no comment covers it. -/
def IsCode (text : List Char) (offset : Nat) : Prop :=
  ∃ before c after, lexemes text = before ++ .code c :: after ∧
    (before.flatMap Lexeme.written).length = offset

structure StandsAt (text : List Char) (offset : Nat) (word : List Char) : Prop where
  isPrefix : word <+: text.drop offset
  isCode : ∀ i < word.length, IsCode text (offset + i)

theorem isBlank_of_mem_blankOut {text : List Char} {c : Char} (h : c ∈ blankOut text) :
    isBlank c = true := by
  obtain ⟨d, -, rfl⟩ := List.mem_map.mp h
  by_cases hd : d = '\n' <;> simp [hd] <;> decide

namespace Lexeme

theorem eq_code_of_mem_masked {lexeme : Lexeme} {c : Char} (h : c ∈ lexeme.masked false)
    (hblank : isBlank c = false) (hquote : c ≠ '"') : lexeme = code c := by
  have hnot {text : List Char} : c ∉ blankOut text := by
    intro hc
    simp [isBlank_of_mem_blankOut hc] at hblank
  cases lexeme with
  | code d => rw [List.mem_singleton.mp h]
  | string inner => simp [masked, hquote, hnot] at h
  | comment inner => exact absurd h hnot

theorem exists_code_of_getElem? {all : List Lexeme} {offset : Nat} {c : Char}
    (h : (all.flatMap (masked false))[offset]? = some c) (hblank : isBlank c = false)
    (hquote : c ≠ '"') :
    ∃ before after, all = before ++ code c :: after ∧
      (before.flatMap written).length = offset := by
  induction all generalizing offset with
  | nil => simp at h
  | cons lexeme all ih =>
    rw [List.flatMap_cons, List.getElem?_append] at h
    have hlength := lexeme.length_masked false
    split at h
    · rename_i hlt
      obtain rfl := eq_code_of_mem_masked (List.mem_of_getElem? h) hblank hquote
      refine ⟨[], all, rfl, ?_⟩
      simp only [masked, List.length_singleton] at hlt
      simp only [List.flatMap_nil, List.length_nil]
      omega
    · rename_i hlt
      obtain ⟨before, after, rfl, hbefore⟩ := ih h
      refine ⟨lexeme :: before, after, rfl, ?_⟩
      rw [List.flatMap_cons, List.length_append, hbefore]
      omega

end Lexeme

theorem isCode_of_mask {text : List Char} {offset : Nat} {c : Char}
    (h : (mask false text)[offset]? = some c) (hblank : isBlank c = false) (hquote : c ≠ '"') :
    IsCode text offset ∧ text[offset]? = some c := by
  obtain ⟨before, after, hall, hoffset⟩ := Lexeme.exists_code_of_getElem? h hblank hquote
  refine ⟨⟨before, c, after, hall, hoffset⟩, ?_⟩
  have htext := flatMap_written_lexemes text
  rw [hall, List.flatMap_append, List.flatMap_cons] at htext
  rw [← htext, List.getElem?_append_right (Nat.le_of_eq hoffset), hoffset, Nat.sub_self]
  rfl

theorem standsAt_of_mask {text word : List Char} {offset : Nat}
    (h : word <+: (mask false text).drop offset)
    (hword : ∀ c ∈ word, isBlank c = false ∧ c ≠ '"') : StandsAt text offset word := by
  have hchar (i : Nat) (hi : i < word.length) :
      IsCode text (offset + i) ∧ text[offset + i]? = some word[i] := by
    obtain ⟨hblank, hquote⟩ := hword word[i] (List.getElem_mem hi)
    apply isCode_of_mask _ hblank hquote
    rw [← List.getElem?_drop]
    exact List.prefix_iff_getElem?.mp h i hi
  constructor
  · apply List.prefix_iff_getElem?.mpr
    intro i hi
    rw [List.getElem?_drop]
    exact (hchar i hi).2
  · intro i hi
    exact (hchar i hi).1

end EnumExport
