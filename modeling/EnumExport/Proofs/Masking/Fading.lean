import EnumExport.Proofs.Masking.FirstLexeme
import EnumExport.Source.Glyph
import Mathlib.Data.List.Forall2

/-!
Fading: how a masked text relates to its source. Every character is kept or becomes a space, and
line ends are kept, so what is found in the masked text and holds no space was in the source.
-/

namespace EnumExport

def Fades (c d : Char) : Prop := d = c ∨ c ≠ '\n' ∧ d = ' '

theorem fades_refl (text : List Char) : List.Forall₂ Fades text text :=
  List.forall₂_same.mpr fun _ _ => .inl rfl

theorem fades_blankOut (text : List Char) : List.Forall₂ Fades text (blankOut text) := by
  rw [blankOut, List.forall₂_map_right_iff]
  apply List.forall₂_same.mpr
  intro c _
  by_cases hc : c = '\n' <;> simp [Fades, hc]

theorem Lexeme.fades_masked (keepStrings : Bool) (lexeme : Lexeme) :
    List.Forall₂ Fades lexeme.written (lexeme.masked keepStrings) := by
  cases lexeme with
  | code c => exact fades_refl [c]
  | string inner =>
    have hinner : List.Forall₂ Fades inner (if keepStrings then inner else blankOut inner) := by
      cases keepStrings
      · exact fades_blankOut inner
      · exact fades_refl inner
    exact .cons (.inl rfl) (List.rel_append hinner (fades_refl ['"']))
  | comment inner => exact fades_blankOut ('/' :: inner)

theorem fades_mask (keepStrings : Bool) (text : List Char) :
    List.Forall₂ Fades text (mask keepStrings text) := by
  fun_induction lexemes text with
  | case1 => simp
  | case2 c text ih =>
    rw [mask_cons]
    conv => lhs; rw [← Lexeme.next_written c text]
    exact List.rel_append (Lexeme.fades_masked keepStrings _) ih

theorem prefix_of_fades {mark text faded : List Char} (h : List.Forall₂ Fades text faded)
    (hmark : ∀ c ∈ mark, c ≠ ' ') (hp : mark <+: faded) : mark <+: text := by
  induction mark generalizing text faded with
  | nil => exact List.nil_prefix
  | cons m mark ih =>
    obtain ⟨back, rfl⟩ := hp
    rw [List.cons_append, List.forall₂_cons_right_iff] at h
    obtain ⟨c, text, hc, ht, rfl⟩ := h
    have hm : m ≠ ' ' := hmark m (List.mem_cons_self ..)
    obtain rfl : m = c := hc.resolve_right fun h => hm h.2
    rw [List.cons_prefix_cons]
    exact ⟨rfl, ih ht (fun d hd => hmark d (List.mem_cons_of_mem _ hd)) ⟨back, rfl⟩⟩

theorem infix_of_fades {mark text faded : List Char} (h : List.Forall₂ Fades text faded)
    (hmark : ∀ c ∈ mark, c ≠ ' ') (hi : mark <:+: faded) : mark <:+: text := by
  induction h with
  | nil => exact hi
  | cons hc ht ih =>
    rw [List.infix_cons_iff] at hi ⊢
    exact hi.imp (prefix_of_fades (.cons hc ht) hmark) ih

theorem count_lineEnd_of_fades {text faded : List Char} (h : List.Forall₂ Fades text faded) :
    faded.count '\n' = text.count '\n' := by
  induction h with
  | nil => rfl
  | cons hc _ ih =>
    rcases hc with rfl | ⟨hc, rfl⟩
    · simp [List.count_cons, ih]
    · simp [ih, hc]

theorem map_shown_glyphs (text : List Char) : (glyphs text).map Glyph.shown = mask false text := by
  have hlen : (mask false text).length ≤ (mask true text).length := by simp [length_mask]
  rw [glyphs, ← List.map_uncurry_zip_eq_zipWith, List.map_map]
  exact List.map_fst_zip hlen

end EnumExport
