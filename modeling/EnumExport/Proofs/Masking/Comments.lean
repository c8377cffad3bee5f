import EnumExport.Proofs.Masking.Fading
import EnumExport.Source.Reader

namespace EnumExport

theorem closesOnLine_append {stretch : List Char} (escaped : Bool) (text : List Char)
    (hline : '\n' ∉ stretch) (hend : ['/'] <:+ stretch)
    (h : closesOnLine false text = true) : closesOnLine escaped (stretch ++ text) = true := by
  induction stretch generalizing escaped with
  | nil => simp at hend
  | cons c stretch ih =>
    have hc : c ≠ '\n' := fun hc => hline (hc ▸ List.mem_cons_self ..)
    have hline : '\n' ∉ stretch := fun hl => hline (List.mem_cons_of_mem _ hl)
    rcases List.suffix_cons_iff.mp hend with hend | hend
    -- The slash at the end is no backslash, so nothing is escaped after it.
    · simp only [List.cons.injEq] at hend
      obtain ⟨rfl, rfl⟩ := hend
      cases escaped <;> simpa [closesOnLine] using h
    · cases escaped with
      | true => simp [closesOnLine, hc, ih false hline hend]
      | false =>
        by_cases hq : c = '"'
        · simp [closesOnLine, hq]
        · simp [closesOnLine, hq, hc, ih _ hline hend]

theorem closesOnLine_blankOut {stretch : List Char} {escaped : Bool} {text : List Char}
    (hne : stretch ≠ []) (h : closesOnLine escaped (blankOut stretch ++ text) = true) :
    '\n' ∉ stretch ∧ closesOnLine false text = true := by
  induction stretch generalizing escaped with
  | nil => exact absurd rfl hne
  | cons c stretch ih =>
    have hc : c ≠ '\n' := by
      rintro rfl
      cases escaped <;> simp [blankOut, closesOnLine] at h
    have hrest : closesOnLine false (blankOut stretch ++ text) = true := by
      cases escaped <;> simpa [blankOut, closesOnLine, hc] using h
    by_cases hs : stretch = []
    · subst hs
      exact ⟨by simpa using hc.symm, hrest⟩
    · exact (ih hs hrest).imp (fun hl => by simp [hl, hc.symm]) id

theorem closesOnLine_append_left {stretch : List Char} {escaped : Bool} {text other : List Char}
    (hto : ∀ escaped, closesOnLine escaped text = true → closesOnLine escaped other = true)
    (h : closesOnLine escaped (stretch ++ text) = true) :
    closesOnLine escaped (stretch ++ other) = true := by
  induction stretch generalizing escaped with
  | nil => exact hto escaped h
  | cons c stretch ih => cases escaped <;> grind [closesOnLine]

theorem closesOnLine_dropLine (text : List Char) :
    closesOnLine false (text.dropWhile (· != '\n')) = false := by
  induction text with
  | nil => rfl
  | cons c text ih =>
    by_cases hc : c = '\n'
    · simp [hc, closesOnLine]
    · simpa [hc] using ih

theorem closesOnLine_of_mask {text : List Char} {escaped : Bool}
    (h : closesOnLine escaped (mask true text) = true) : closesOnLine escaped text = true := by
  induction text using lexemes.induct generalizing escaped with
  | case1 => simpa using h
  | case2 c text ih =>
    rw [mask_cons] at h
    rw [← Lexeme.next_written c text]
    have hs := Lexeme.next_starts c text
    generalize Lexeme.next c text = found at hs h ih
    obtain ⟨lexeme, rest⟩ := found
    cases lexeme with
    | code d => exact closesOnLine_append_left (fun _ => ih) h
    | string inner => exact closesOnLine_append_left (fun _ => ih) h
    | comment inner =>
      -- The blanks close nothing, so the literal goes on behind them, and the comment holds no
      -- line end. Such a comment reaches the end of the line or is a block comment.
      obtain ⟨hline, hrest⟩ := closesOnLine_blankOut (List.cons_ne_nil _ _) h
      have hclosed := ih hrest
      cases hs with
      | lineComment => simp [closesOnLine_dropLine] at hclosed
      | @blockComment _ piece _ hc =>
        have hend : ['/'] <:+ '/' :: '*' :: piece :=
          ((List.suffix_append ['*'] ['/']).trans (Lexeme.cutAfter_ends hc)).trans
            (List.suffix_append ['/', '*'] piece)
        exact closesOnLine_append escaped rest hline hend hclosed

theorem lexemes_blankOut_append (stretch text : List Char) :
    lexemes (blankOut stretch ++ text) = (blankOut stretch).map .code ++ lexemes text := by
  induction stretch with
  | nil => rfl
  | cons c stretch ih =>
    have hstart (d : Char) (hd : d = '\n' ∨ d = ' ') (rest : List Char) :
        Lexeme.next d rest = (.code d, rest) := by
      apply (Lexeme.Starts.code (Lexeme.hidden?_eq_none rest _ _)).next_eq <;>
        rcases hd with rfl | rfl <;> decide
    by_cases hc : c = '\n' <;>
      simp [blankOut, hc, lexemes_cons, hstart] <;> simpa [blankOut] using ih

namespace Lexeme

def uncommented : Lexeme → List Lexeme
  | comment inner => (blankOut ('/' :: inner)).map code
  | lexeme => [lexeme]

theorem masked_uncommented (keepStrings : Bool) (lexeme : Lexeme) :
    lexeme.uncommented.flatMap (masked keepStrings) = lexeme.masked keepStrings := by
  cases lexeme with
  | code c => simp [uncommented, masked]
  | string inner => simp [uncommented, masked]
  | comment inner => simp [uncommented, masked, List.flatMap_map]

theorem blockString?_of_fades {text faded : List Char} (h : List.Forall₂ Fades text faded)
    (hn : blockString? text = none) : blockString? faded = none := by
  rw [blockString?_eq_none_iff] at hn ⊢
  rintro tail rfl hi
  have hstart : ['"', '"'] <+: text := prefix_of_fades h (by simp) ⟨tail, rfl⟩
  obtain ⟨back, rfl⟩ := hstart
  have htail : List.Forall₂ Fades back tail :=
    (List.forall₂_cons.mp (List.forall₂_cons.mp h).2).2
  exact hn back rfl (infix_of_fades htail (by simp [blockQuotes]) hi)

theorem hidden?_mask {c : Char} {text : List Char} (h : hidden? c text = none) :
    hidden? c (mask true text) = none := by
  have hfades := fades_mask true text
  -- Blanking may take away what would close a lexeme, but never puts it in.
  by_cases hq : c = '"'
  · subst hq
    rw [hidden?_quote_eq_none_iff] at h ⊢
    refine ⟨blockString?_of_fades hfades h.1, ?_⟩
    rw [cutString_eq_none_iff] at h ⊢
    exact Bool.eq_false_iff.mpr fun hc => Bool.eq_false_iff.mp h.2 (closesOnLine_of_mask hc)
  · by_cases hs : c = '/'
    · subst hs
      rw [hidden?_slash_eq_none_iff] at h ⊢
      refine ⟨fun hp => h.1 (prefix_of_fades hfades (by simp) hp), fun tail ht hi => ?_⟩
      rw [ht, List.forall₂_cons_right_iff] at hfades
      obtain ⟨d, back, hd, hback, rfl⟩ := hfades
      obtain rfl : d = '*' := by simpa [Fades, eq_comm] using hd
      exact h.2 back rfl (infix_of_fades hback (by simp) hi)
    · exact hidden?_eq_none _ hq hs

theorem Starts.mask_right {c : Char} {text rest : List Char} {lexeme : Lexeme}
    (h : Starts c text lexeme rest) :
    lexemes (lexeme.masked true ++ mask true rest) =
      lexeme.uncommented ++ lexemes (mask true rest) := by
  cases h with
  | code h =>
    have hnext := (Starts.code (hidden?_mask h)).next_eq
    simp [masked, uncommented, lexemes_cons, hnext]
  | @blockString _ piece _ h =>
    have hcut := cutAfter_append_right (mask true rest) (by simp [blockQuotes]) h
    have hnext := (Starts.blockString hcut).next_eq
    simp only [List.append_assoc, List.cons_append, List.nil_append] at hnext
    simp [masked, uncommented, lexemes_cons, hnext]
  | @lineString _ inner _ hn h =>
    -- The inside of the literal stays as it is, but three quotes must not come about behind it.
    have hfades : List.Forall₂ Fades text (inner ++ '"' :: mask true rest) := by
      rw [← cutString_append h]
      exact List.rel_append (fades_refl inner) (.cons (.inl rfl) (fades_mask true rest))
    have hcut := cutString_append_right (mask true rest) h
    have hnext := (Starts.lineString (blockString?_of_fades hfades hn) hcut).next_eq
    simp [masked, uncommented, lexemes_cons, hnext]
  | lineComment => exact lexemes_blankOut_append _ _
  | blockComment h => exact lexemes_blankOut_append _ _

end Lexeme

theorem lexemes_mask (text : List Char) :
    lexemes (mask true text) = (lexemes text).flatMap Lexeme.uncommented := by
  induction text using lexemes.induct with
  | case1 => simp [lexemes]
  | case2 c text ih =>
    rw [mask_cons, (Lexeme.next_starts c text).mask_right, ih, lexemes_cons, List.flatMap_cons]

theorem mask_mask (keepStrings : Bool) (text : List Char) :
    mask keepStrings (mask true text) = mask keepStrings text := by
  rw [mask, lexemes_mask, List.flatMap_assoc]
  simp only [Lexeme.masked_uncommented, mask]

theorem glyphs_mask (text : List Char) : glyphs (mask true text) = glyphs text := by
  rw [glyphs, mask_mask, mask_mask, glyphs]

theorem comments_blanked_beforehand (text : List Char) :
    (∀ keepStrings, mask keepStrings (mask true text) = mask keepStrings text) ∧
      ∀ marker file, readSource marker file (mask true text) = readSource marker file text := by
  refine ⟨fun keepStrings => mask_mask keepStrings text, fun marker file => ?_⟩
  rw [readSource, glyphs_mask, readSource]

end EnumExport
