import EnumExport.Proofs.Lists
import EnumExport.Proofs.Masking.Fading
import EnumExport.Source.Reader

namespace EnumExport

def LeavesNothingOpen (text : List Char) : Prop :=
  ¬ ['/', '*'] <:+: mask false text ∧ ¬ Lexeme.blockQuotes <:+: mask false text

instance (text : List Char) : Decidable (LeavesNothingOpen text) :=
  inferInstanceAs (Decidable (_ ∧ _))

theorem closesOnLine_append_line (escaped : Bool) (text more : List Char) :
    closesOnLine escaped (text ++ '\n' :: more) = closesOnLine escaped text := by
  induction text generalizing escaped with
  | nil => cases escaped <;> simp [closesOnLine]
  | cons c text ih => cases escaped <;> simp [closesOnLine, ih]

theorem exists_mask_quote (keepStrings : Bool) (text : List Char) :
    ∃ tail, mask keepStrings ('"' :: text) = '"' :: tail := by
  rw [mask_cons]
  have hs := Lexeme.next_starts '"' text
  generalize Lexeme.next '"' text = found at hs ⊢
  obtain ⟨lexeme, rest⟩ := found
  cases hs with
  | code h => exact ⟨_, rfl⟩
  | blockString h => exact ⟨_, rfl⟩
  | lineString hn h => exact ⟨_, rfl⟩

namespace Lexeme

theorem hidden?_append_line {c : Char} {text : List Char} (more : List Char)
    (h : hidden? c text = none) (hopen : LeavesNothingOpen (c :: text)) :
    hidden? c (text ++ '\n' :: more) = none := by
  have hmask : mask false (c :: text) = c :: mask false text := by
    rw [mask_cons, (Starts.code h).next_eq]
    rfl
  by_cases hq : c = '"'
  · subst hq
    rw [hidden?_quote_eq_none_iff, blockString?_eq_none_iff, cutString_eq_none_iff] at h ⊢
    rw [closesOnLine_append_line]
    -- A second quote would have closed the literal.
    refine ⟨fun tail ht _ => ?_, h.2⟩
    cases text with
    | nil => simp at ht
    | cons d text =>
      obtain rfl : d = '"' := by simp at ht; exact ht.1
      simp [closesOnLine] at h
  · by_cases hs : c = '/'
    · subst hs
      rw [hidden?_slash_eq_none_iff] at h ⊢
      cases text with
      | nil => simp
      | cons d text =>
        -- An open comment keeps its mark in the masked text.
        refine ⟨fun hp => h.1 (by simpa using hp), fun tail ht _ => hopen.1 ?_⟩
        obtain rfl : d = '*' := by simp at ht; exact ht.1
        have hstar : next '*' text = (.code '*', text) :=
          (Starts.code (hidden?_eq_none text (by decide) (by decide))).next_eq
        rw [hmask, mask_cons, hstar]
        exact ⟨[], mask false text, rfl⟩
    · exact hidden?_eq_none _ hq hs

theorem blockString?_append_line {text inner rest : List Char} (more : List Char)
    (hn : blockString? text = none) (h : cutString text = some (inner, rest))
    (hopen : LeavesNothingOpen ('"' :: text)) : blockString? (text ++ '\n' :: more) = none := by
  rw [blockString?_eq_none_iff]
  intro tail ht _
  cases text with
  | nil => simp at ht
  | cons d text =>
    obtain rfl : d = '"' := by simp at ht; exact ht.1
    cases text with
    | nil => simp at ht
    | cons d text =>
      obtain rfl : d = '"' := by simp at ht; exact ht.1
      -- The first two quotes are an empty literal, and the third is left as it is.
      have hempty : cutString ('"' :: '"' :: text) = some ([], '"' :: text) := by simp [cutString]
      obtain ⟨tail, htail⟩ := exists_mask_quote false text
      apply hopen.2
      rw [mask_cons, (Starts.lineString hn hempty).next_eq]
      simp only [htail]
      exact ⟨[], tail, rfl⟩

theorem Starts.append_line {c : Char} {text rest : List Char} {lexeme : Lexeme}
    (h : Starts c text lexeme rest) (more : List Char) (hopen : LeavesNothingOpen (c :: text)) :
    Starts c (text ++ '\n' :: more) lexeme (rest ++ '\n' :: more) := by
  cases h with
  | code h => exact .code (hidden?_append_line more h hopen)
  | blockString h =>
    have hcut := cutAfter_append_right (rest ++ '\n' :: more) (by simp [blockQuotes]) h
    rw [← List.append_assoc, cutAfter_append h] at hcut
    exact .blockString hcut
  | lineString hn h =>
    have hcut := cutString_append_right (rest ++ '\n' :: more) h
    rw [← List.cons_append, ← List.append_assoc, cutString_append h] at hcut
    exact .lineString (blockString?_append_line more hn h hopen) hcut
  | @lineComment text =>
    have hstart := @Starts.lineComment (text ++ '\n' :: more)
    rwa [takeWhile_append_cons text more rfl, dropWhile_append_cons text more rfl] at hstart
  | blockComment h =>
    have hcut := cutAfter_append_right (rest ++ '\n' :: more) (by simp) h
    rw [← List.append_assoc, cutAfter_append h] at hcut
    exact .blockComment hcut

end Lexeme

theorem lexemes_append_line {text : List Char} (more : List Char) (hopen : LeavesNothingOpen text) :
    lexemes (text ++ '\n' :: more) = lexemes text ++ .code '\n' :: lexemes more := by
  induction text using lexemes.induct with
  | case1 =>
    have hline := (Lexeme.Starts.code (Lexeme.hidden?_eq_none more (by decide) (by decide))).next_eq
      (c := '\n')
    simp [lexemes, hline]
  | case2 c text ih =>
    have hrest : LeavesNothingOpen (Lexeme.next c text).2 := by
      rw [LeavesNothingOpen, mask_cons] at hopen
      exact hopen.imp (mt fun h => h.trans (List.suffix_append _ _).isInfix)
        (mt fun h => h.trans (List.suffix_append _ _).isInfix)
    rw [List.cons_append, lexemes_cons, lexemes_cons,
      ((Lexeme.next_starts c text).append_line more hopen).next_eq, ih hrest, List.cons_append]

theorem mask_append_line (keepStrings : Bool) {text : List Char} (more : List Char)
    (hopen : LeavesNothingOpen text) :
    mask keepStrings (text ++ '\n' :: more) =
      mask keepStrings text ++ '\n' :: mask keepStrings more := by
  simp [mask, lexemes_append_line more hopen, Lexeme.masked]

theorem glyphs_append_line {text : List Char} (more : List Char) (hopen : LeavesNothingOpen text) :
    glyphs (text ++ '\n' :: more) = glyphs text ++ ⟨'\n', '\n'⟩ :: glyphs more := by
  rw [glyphs, mask_append_line _ more hopen, mask_append_line _ more hopen,
    List.zipWith_append (by simp [length_mask])]
  rfl

section LineEnd

theorem infix_of_append_lineEnd {mark text : List Char} (hmark : '\n' ∉ mark)
    (h : mark <:+: text ++ ['\n']) : mark <:+: text := by
  rcases List.infix_concat_iff.mp h with hsuffix | hinfix
  · rcases List.suffix_concat_iff.mp hsuffix with rfl | ⟨front, rfl, -⟩
    · exact List.nil_infix
    · simp at hmark
  · exact hinfix

namespace Lexeme

theorem blockString?_append_lineEnd {text : List Char} (h : blockString? text = none) :
    blockString? (text ++ ['\n']) = none := by
  rw [blockString?_eq_none_iff] at h ⊢
  intro tail htail hquotes
  match text with
  | [] => simp at htail
  | [c] => simp at htail
  | c :: d :: text =>
    simp only [List.cons_append, List.cons.injEq] at htail
    obtain ⟨rfl, rfl, rfl⟩ := htail
    exact h text rfl (infix_of_append_lineEnd (by decide) hquotes)

theorem hidden?_append_lineEnd {c : Char} {text : List Char} (h : hidden? c text = none) :
    hidden? c (text ++ ['\n']) = none := by
  by_cases hq : c = '"'
  · subst hq
    rw [hidden?_quote_eq_none_iff, cutString_eq_none_iff] at h ⊢
    exact ⟨blockString?_append_lineEnd h.1, by rw [closesOnLine_append_line, h.2]⟩
  · by_cases hs : c = '/'
    · subst hs
      rw [hidden?_slash_eq_none_iff] at h ⊢
      cases text with
      | nil => simp
      | cons d text =>
        refine ⟨fun hp => h.1 (by simpa using hp), fun tail ht hclose => ?_⟩
        obtain ⟨rfl, rfl⟩ := List.cons.inj ht
        exact h.2 text rfl (infix_of_append_lineEnd (by decide) hclose)
    · exact hidden?_eq_none _ hq hs

theorem Starts.append_lineEnd {c : Char} {text rest : List Char} {lexeme : Lexeme}
    (h : Starts c text lexeme rest) : Starts c (text ++ ['\n']) lexeme (rest ++ ['\n']) := by
  cases h with
  | code h => exact .code (hidden?_append_lineEnd h)
  | blockString h =>
    have hcut := cutAfter_append_right (rest ++ ['\n']) (by simp [blockQuotes]) h
    rw [← List.append_assoc, cutAfter_append h] at hcut
    exact .blockString hcut
  | lineString hn h =>
    have hcut := cutString_append_right (rest ++ ['\n']) h
    rw [← List.cons_append, ← List.append_assoc, cutString_append h] at hcut
    exact .lineString (blockString?_append_lineEnd hn) hcut
  | @lineComment text =>
    have hstart := @Starts.lineComment (text ++ ['\n'])
    rwa [takeWhile_append_cons text [] rfl, dropWhile_append_cons text [] rfl] at hstart
  | blockComment h =>
    have hcut := cutAfter_append_right (rest ++ ['\n']) (by simp) h
    rw [← List.append_assoc, cutAfter_append h] at hcut
    exact .blockComment hcut

end Lexeme

theorem lexemes_append_lineEnd (text : List Char) :
    lexemes (text ++ ['\n']) = lexemes text ++ [.code '\n'] := by
  induction text using lexemes.induct with
  | case1 => decide +kernel
  | case2 c text ih =>
    rw [List.cons_append, lexemes_cons, lexemes_cons,
      (Lexeme.next_starts c text).append_lineEnd.next_eq, ih, List.cons_append]

theorem LeavesNothingOpen.of_append_lineEnd {text : List Char}
    (h : LeavesNothingOpen (text ++ ['\n'])) : LeavesNothingOpen text := by
  have hmask : mask false (text ++ ['\n']) = mask false text ++ ['\n'] := by
    simp [mask, lexemes_append_lineEnd, Lexeme.masked]
  rw [LeavesNothingOpen, hmask] at h
  have hfront : mask false text <:+: mask false text ++ ['\n'] :=
    (List.prefix_append _ _).isInfix
  exact h.imp (mt fun hmark => hmark.trans hfront) (mt fun hmark => hmark.trans hfront)

theorem glyphs_nil : glyphs [] = [] := by simp [glyphs]

/-- Whether what follows a text begins a line, with no literal and no comment left open. -/
structure EndsInCode (above : List Char) : Prop where
  line : above = [] ∨ ['\n'] <:+ above
  nothingOpen : LeavesNothingOpen above

theorem EndsInCode.glyphs_append {above : List Char} (h : EndsInCode above) (rest : List Char) :
    glyphs (above ++ rest) = glyphs above ++ glyphs rest := by
  rcases h.line with rfl | ⟨lines, rfl⟩
  · rw [glyphs_nil, List.nil_append, List.nil_append]
  · have hopen := h.nothingOpen.of_append_lineEnd
    have hend : glyphs (lines ++ ['\n']) = glyphs lines ++ [⟨'\n', '\n'⟩] := by
      rw [glyphs_append_line [] hopen, glyphs_nil]
    rw [hend, List.append_assoc, List.singleton_append, glyphs_append_line rest hopen,
      List.append_assoc, List.singleton_append]

end LineEnd

end EnumExport
