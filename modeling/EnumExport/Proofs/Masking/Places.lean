import EnumExport.Proofs.Masking.Code
import EnumExport.Proofs.Masking.Fading

namespace EnumExport

def IsQuoted (text : List Char) (offset : Nat) : Prop :=
  ∃ before inner after, lexemes text = before ++ .string inner :: after ∧
    (before.flatMap Lexeme.written).length < offset ∧
    offset < (before.flatMap Lexeme.written).length + 1 + inner.length

theorem getElem?_of_fades {text faded : List Char} (h : List.Forall₂ Fades text faded)
    {offset : Nat} {c : Char} (hc : text[offset]? = some c) :
    ∃ d, faded[offset]? = some d ∧ Fades c d := by
  induction h generalizing offset with
  | nil => simp at hc
  | cons hfirst _ ih =>
    cases offset with
    | zero =>
      obtain rfl := Option.some.inj hc
      exact ⟨_, rfl, hfirst⟩
    | succ offset => exact ih hc

theorem getElem?_eq_none_of_fades {text faded : List Char} (h : List.Forall₂ Fades text faded)
    {offset : Nat} (hend : text[offset]? = none) : faded[offset]? = none := by
  rw [List.getElem?_eq_none_iff] at hend ⊢
  rwa [← h.length_eq]

theorem lineEnd_of_fades {text faded : List Char} (h : List.Forall₂ Fades text faded)
    (offset : Nat) : faded[offset]? = some '\n' ↔ text[offset]? = some '\n' := by
  cases hc : text[offset]? with
  | none => simp [getElem?_eq_none_of_fades h hc]
  | some c =>
    obtain ⟨d, hd, rfl | ⟨hline, rfl⟩⟩ := getElem?_of_fades h hc
    · rw [hd]
    · simp [hd, hline]

namespace Lexeme

theorem exists_inner_of_masked_ne {lexeme : Lexeme} {offset : Nat}
    (h : (lexeme.masked false)[offset]? ≠ (lexeme.masked true)[offset]?) :
    ∃ inner, lexeme = string inner ∧ 0 < offset ∧ offset < 1 + inner.length := by
  cases lexeme with
  | code c => exact absurd rfl h
  | comment inner => exact absurd rfl h
  | string inner =>
    refine ⟨inner, rfl, Nat.pos_of_ne_zero ?_, ?_⟩
    · rintro rfl
      exact h rfl
    · by_contra hlate
      obtain ⟨more, rfl⟩ := Nat.exists_eq_add_of_le (Nat.le_of_not_lt hlate)
      apply h
      simp [masked, Nat.add_comm 1, Nat.add_right_comm, List.getElem?_append_right]

theorem exists_string_of_masked_ne {all : List Lexeme} {offset : Nat}
    (h : (all.flatMap (masked false))[offset]? ≠ (all.flatMap (masked true))[offset]?) :
    ∃ before inner after, all = before ++ string inner :: after ∧
      (before.flatMap written).length < offset ∧
      offset < (before.flatMap written).length + 1 + inner.length := by
  induction all generalizing offset with
  | nil => exact absurd rfl h
  | cons lexeme all ih =>
    have hshown := lexeme.length_masked false
    have hbehind := lexeme.length_masked true
    rw [List.flatMap_cons, List.flatMap_cons] at h
    by_cases hin : offset < lexeme.written.length
    · rw [List.getElem?_append_left (hshown ▸ hin), List.getElem?_append_left (hbehind ▸ hin)] at h
      obtain ⟨inner, rfl, hplace⟩ := exists_inner_of_masked_ne h
      exact ⟨[], inner, all, rfl, by simpa using hplace⟩
    · have hout := Nat.le_of_not_lt hin
      rw [List.getElem?_append_right (hshown ▸ hout), List.getElem?_append_right (hbehind ▸ hout),
        hshown, hbehind] at h
      obtain ⟨before, inner, after, rfl, hplace⟩ := ih h
      refine ⟨lexeme :: before, inner, after, rfl, ?_⟩
      rw [List.flatMap_cons, List.length_append]
      omega

end Lexeme

theorem isQuoted_of_mask_ne {text : List Char} {offset : Nat}
    (h : (mask false text)[offset]? ≠ (mask true text)[offset]?) : IsQuoted text offset :=
  Lexeme.exists_string_of_masked_ne h

theorem lexemes_drop {text : List Char} {before after : List Lexeme}
    (h : lexemes text = before ++ after) :
    lexemes (text.drop (before.flatMap Lexeme.written).length) = after := by
  induction before generalizing text with
  | nil => exact h
  | cons lexeme before ih =>
    cases text with
    | nil => simp [lexemes] at h
    | cons c text =>
      rw [lexemes_cons] at h
      obtain ⟨rfl, hrest⟩ := List.cons.inj h
      rw [List.flatMap_cons, List.length_append, ← List.drop_drop]
      conv => lhs; rw [← Lexeme.next_written c text, List.drop_left]
      exact ih hrest

theorem IsCode.hidden?_eq_none {text rest : List Char} {offset : Nat} {c : Char}
    (h : IsCode text offset) (hrest : text.drop offset = c :: rest) :
    Lexeme.hidden? c rest = none := by
  obtain ⟨before, d, after, hall, rfl⟩ := h
  have hfirst := lexemes_drop hall
  rw [hrest, lexemes_cons] at hfirst
  have hstarts := Lexeme.next_starts c rest
  rw [(List.cons.inj hfirst).1] at hstarts
  generalize (Lexeme.next c rest).2 = found at hstarts
  cases hstarts with
  | code hnone => exact hnone

theorem hidden?_of_mask_slash {text tail : List Char} {offset : Nat}
    (h : (mask false text).drop offset = '/' :: tail) :
    ∃ rest, List.Forall₂ Fades rest tail ∧ Lexeme.hidden? '/' rest = none := by
  have hfades := List.forall₂_drop offset (fades_mask false text)
  rw [h, List.forall₂_cons_right_iff] at hfades
  obtain ⟨c, rest, hc, hrest, htext⟩ := hfades
  obtain rfl : '/' = c := by
    rcases hc with hc | ⟨-, hblank⟩
    · exact hc
    · exact absurd hblank (by decide)
  have hshown : (mask false text)[offset]? = some '/' := by
    rw [← Nat.add_zero offset, ← List.getElem?_drop, h]
    rfl
  obtain ⟨hcode, -⟩ := isCode_of_mask hshown (by decide) (by decide)
  exact ⟨rest, hrest, hcode.hidden?_eq_none htext⟩

theorem not_lineComment_mask (text : List Char) : ¬ ['/', '/'] <:+: mask false text := by
  rintro ⟨front, back, hmask⟩
  have hdrop : (mask false text).drop front.length = '/' :: '/' :: back := by
    rw [← hmask]
    simp
  obtain ⟨rest, hfades, hnone⟩ := hidden?_of_mask_slash hdrop
  have hslash : ['/'] <+: rest := prefix_of_fades hfades (by decide) ⟨back, rfl⟩
  exact (Lexeme.hidden?_slash_eq_none_iff.mp hnone).1 hslash

theorem not_blockComment_mask (text front middle back : List Char) :
    mask false text ≠ front ++ ['/', '*'] ++ middle ++ ['*', '/'] ++ back := by
  intro hmask
  have hdrop : (mask false text).drop front.length =
      '/' :: '*' :: (middle ++ ['*', '/'] ++ back) := by
    rw [hmask]
    simp
  obtain ⟨rest, hfades, hnone⟩ := hidden?_of_mask_slash hdrop
  rw [List.forall₂_cons_right_iff] at hfades
  obtain ⟨c, tail, hc, htail, rfl⟩ := hfades
  obtain rfl : '*' = c := by
    rcases hc with hc | ⟨-, hblank⟩
    · exact hc
    · exact absurd hblank (by decide)
  have hend : ['*', '/'] <:+: tail :=
    infix_of_fades htail (by decide) ⟨middle, back, rfl⟩
  exact (Lexeme.hidden?_slash_eq_none_iff.mp hnone).2 tail rfl hend

theorem getElem?_mask (keepStrings : Bool) (text : List Char) (offset : Nat) :
    (mask keepStrings text)[offset]? = text[offset]? ∨
      offset < text.length ∧ (mask keepStrings text)[offset]? = some ' ' := by
  have hfades := fades_mask keepStrings text
  cases hc : text[offset]? with
  | none => exact Or.inl (getElem?_eq_none_of_fades hfades hc)
  | some c =>
    obtain ⟨d, hd, rfl | ⟨-, rfl⟩⟩ := getElem?_of_fades hfades hc
    · exact Or.inl hd
    · exact Or.inr ⟨(List.getElem?_eq_some_iff.mp hc).1, hd⟩

/-- Masking puts spaces in the places of other characters and changes nothing else, line ends in
particular; the two views differ in string literals only; and no comment is left. -/
theorem mask_keeps_places (text : List Char) :
    (∀ keepStrings, (mask keepStrings text).length = text.length ∧
      ∀ offset : Nat,
        ((mask keepStrings text)[offset]? = some '\n' ↔ text[offset]? = some '\n') ∧
        ((mask keepStrings text)[offset]? = text[offset]? ∨
          offset < text.length ∧ (mask keepStrings text)[offset]? = some ' ')) ∧
    (∀ offset : Nat,
      (mask false text)[offset]? = (mask true text)[offset]? ∨ IsQuoted text offset) ∧
    ¬ ['/', '/'] <:+: mask false text ∧
    ∀ front middle back,
      mask false text ≠ front ++ ['/', '*'] ++ middle ++ ['*', '/'] ++ back := by
  refine ⟨fun keepStrings => ⟨length_mask keepStrings text, fun offset => ?_⟩, fun offset => ?_,
    not_lineComment_mask text, not_blockComment_mask text⟩
  · exact ⟨lineEnd_of_fades (fades_mask keepStrings text) offset,
      getElem?_mask keepStrings text offset⟩
  · by_cases hsame : (mask false text)[offset]? = (mask true text)[offset]?
    · exact Or.inl hsame
    · exact Or.inr (isQuoted_of_mask_ne hsame)

end EnumExport
