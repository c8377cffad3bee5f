import EnumExport.Source.Mask

namespace EnumExport

namespace Lexeme

theorem cutAfter_eq_none_iff {mark text : List Char} (hm : mark ≠ []) :
    cutAfter mark text = none ↔ ¬ mark <:+: text := by
  induction text with
  | nil => simp [cutAfter, hm]
  | cons c text ih =>
    rw [List.infix_cons_iff, ← List.isPrefixOf_iff_prefix]
    by_cases h : mark.isPrefixOf (c :: text) = true
    · simp [cutAfter, h]
    · simp [cutAfter, h, ih]

theorem cutAfter_append_right {mark text piece rest : List Char} (u : List Char)
    (hm : mark ≠ []) (h : cutAfter mark text = some (piece, rest)) :
    cutAfter mark (piece ++ u) = some (piece, u) := by
  induction text generalizing piece with
  | nil => simp [cutAfter, hm] at h
  | cons c text ih =>
    simp only [cutAfter] at h
    split at h
    · simp only [Option.some.injEq, Prod.mk.injEq] at h
      obtain ⟨rfl, -⟩ := h
      obtain ⟨d, mark, rfl⟩ := List.exists_cons_of_ne_nil hm
      have hp : (d :: mark).isPrefixOf (d :: (mark ++ u)) = true :=
        List.isPrefixOf_iff_prefix.mpr ⟨u, rfl⟩
      simp [cutAfter, hp]
    · rename_i hn
      obtain ⟨⟨p, r⟩, hp, he⟩ := Option.map_eq_some_iff.mp h
      simp only [Prod.mk.injEq] at he
      obtain ⟨rfl, rfl⟩ := he
      have hlen := (cutAfter_ends hp).length_le
      have hn' : mark.isPrefixOf (c :: (p ++ u)) = false := by
        rw [Bool.eq_false_iff]
        intro hq
        apply hn
        rw [← cutAfter_append hp]
        rw [List.isPrefixOf_iff_prefix] at hq ⊢
        have : mark <+: c :: p := List.prefix_of_prefix_length_le hq ⟨u, rfl⟩ (by simp; omega)
        exact this.trans ⟨r, rfl⟩
      simp [cutAfter, hn', ih hp]

theorem cutString_append_right {text inner rest : List Char} (u : List Char)
    (h : cutString text = some (inner, rest)) :
    cutString (inner ++ '"' :: u) = some (inner, u) := by
  fun_induction cutString text generalizing inner with
  | case1 => simp at h
  | case2 => simp at h
  | case3 c text hc ih =>
    obtain ⟨⟨i, r⟩, hi, he⟩ := Option.map_eq_some_iff.mp h
    simp only [Prod.mk.injEq] at he
    obtain ⟨rfl, rfl⟩ := he
    simp [cutString, hc, ih hi]
  | case4 => simp_all [cutString]
  | case5 => simp at h
  | case6 c text hp hq hc ih =>
    obtain ⟨⟨i, r⟩, hi, he⟩ := Option.map_eq_some_iff.mp h
    simp only [Prod.mk.injEq] at he
    obtain ⟨rfl, rfl⟩ := he
    obtain ⟨hn, hb⟩ := not_or.mp hc
    simp [cutString, hq, hn, hb, ih hi]

def blockQuotes : List Char := ['"', '"', '"']

inductive Starts : Char → List Char → Lexeme → List Char → Prop where
  | code {c : Char} {text : List Char} : hidden? c text = none → Starts c text (code c) text
  | blockString {text piece rest : List Char} :
      cutAfter blockQuotes text = some (piece ++ ['"'], rest) →
      Starts '"' ('"' :: '"' :: text) (string ('"' :: '"' :: piece)) rest
  | lineString {text inner rest : List Char} :
      blockString? text = none → cutString text = some (inner, rest) →
      Starts '"' text (string inner) rest
  | lineComment {text : List Char} :
      Starts '/' ('/' :: text) (comment ('/' :: text.takeWhile (· != '\n')))
        (text.dropWhile (· != '\n'))
  | blockComment {text piece rest : List Char} :
      cutAfter ['*', '/'] text = some (piece, rest) →
      Starts '/' ('*' :: text) (comment ('*' :: piece)) rest

theorem starts_of_blockString? {text rest : List Char} {lexeme : Lexeme}
    (h : blockString? text = some (lexeme, rest)) : Starts '"' text lexeme rest := by
  unfold blockString? at h
  split at h
  · obtain ⟨⟨piece, r⟩, hp, he⟩ := Option.map_eq_some_iff.mp h
    simp only [Prod.mk.injEq] at he
    obtain ⟨rfl, rfl⟩ := he
    obtain ⟨front, rfl⟩ := cutAfter_ends hp
    have hlast : (front ++ ['"', '"', '"']).dropLast = front ++ ['"', '"'] := by
      simp [List.dropLast_append_of_ne_nil]
    rw [hlast]
    exact .blockString (by simpa [blockQuotes] using hp)
  · simp at h

theorem starts_of_hidden? {c : Char} {text rest : List Char} {lexeme : Lexeme}
    (h : hidden? c text = some (lexeme, rest)) : Starts c text lexeme rest := by
  unfold hidden? at h
  split at h
  · subst c
    rcases Option.or_eq_some_iff.mp h with h | ⟨hn, h⟩
    · exact starts_of_blockString? h
    · obtain ⟨⟨inner, r⟩, hp, he⟩ := Option.map_eq_some_iff.mp h
      simp only [Prod.mk.injEq] at he
      obtain ⟨rfl, rfl⟩ := he
      exact .lineString hn hp
  · split at h
    · subst c
      rcases Option.or_eq_some_iff.mp h with h | ⟨-, h⟩
      · unfold lineComment? at h
        split at h
        · simp only [Option.some.injEq, Prod.mk.injEq] at h
          obtain ⟨rfl, rfl⟩ := h
          exact .lineComment
        · simp at h
      · unfold blockComment? at h
        split at h
        · obtain ⟨⟨piece, r⟩, hp, he⟩ := Option.map_eq_some_iff.mp h
          simp only [Prod.mk.injEq] at he
          obtain ⟨rfl, rfl⟩ := he
          exact .blockComment hp
        · simp at h
    · simp at h

theorem next_starts (c : Char) (text : List Char) :
    Starts c text (next c text).1 (next c text).2 := by
  unfold next
  cases h : hidden? c text with
  | none => exact .code h
  | some found => exact starts_of_hidden? h

theorem Starts.next_eq {c : Char} {text rest : List Char} {lexeme : Lexeme}
    (h : Starts c text lexeme rest) : next c text = (lexeme, rest) := by
  cases h with
  | code h => simp [next, h]
  | blockString h =>
    simp only [blockQuotes] at h
    simp [next, hidden?, blockString?, h]
  | lineString hn h => simp [next, hidden?, hn, lineString?, h]
  | lineComment => simp [next, hidden?, lineComment?]
  | blockComment h => simp [next, hidden?, lineComment?, blockComment?, h]

theorem hidden?_quote_eq_none_iff {text : List Char} :
    hidden? '"' text = none ↔ blockString? text = none ∧ cutString text = none := by
  simp [hidden?, lineString?, Option.or_eq_none_iff]

theorem hidden?_slash_eq_none_iff {text : List Char} :
    hidden? '/' text = none ↔
      ¬ ['/'] <+: text ∧ ∀ tail, text = '*' :: tail → ¬ ['*', '/'] <:+: tail := by
  cases text with
  | nil => simp [hidden?, lineComment?, blockComment?]
  | cons c text =>
    by_cases hs : c = '/'
    · simp [hidden?, lineComment?, hs]
    · by_cases hb : c = '*'
      · simp [hidden?, lineComment?, blockComment?, hb, cutAfter_eq_none_iff]
      · simp [hidden?, lineComment?, blockComment?, hs, hb, Ne.symm hs]

theorem hidden?_eq_none {c : Char} (text : List Char) (hq : c ≠ '"') (hs : c ≠ '/') :
    hidden? c text = none := by
  simp [hidden?, hq, hs]

theorem blockString?_eq_none_iff {text : List Char} :
    blockString? text = none ↔
      ∀ tail, text = '"' :: '"' :: tail → ¬ blockQuotes <:+: tail := by
  unfold blockString?
  split
  · simp [cutAfter_eq_none_iff, blockQuotes]
  · rename_i hn
    simp only [true_iff]
    exact fun tail h => absurd h (hn tail)

end Lexeme

def closesOnLine : Bool → List Char → Bool
  | _, [] => false
  | true, c :: text => c != '\n' && closesOnLine false text
  | false, c :: text =>
    if c = '"' then true
    else if c = '\n' then false
    else closesOnLine (c == '\\') text

theorem isSome_cutString (text : List Char) :
    (Lexeme.cutString text).isSome = closesOnLine false text := by
  fun_induction Lexeme.cutString text with
  | case1 => rfl
  | case2 => simp_all [closesOnLine]
  | case3 c text hc ih => simp_all [closesOnLine]
  | case4 => simp_all [closesOnLine]
  | case5 c text hp hq hc =>
    rcases hc with rfl | rfl
    · simp [closesOnLine]
    · cases text with
      | nil => simp [closesOnLine]
      | cons d text => exact absurd rfl (hp d text rfl)
  | case6 c text hp hq hc ih =>
    obtain ⟨hn, hb⟩ := not_or.mp hc
    simp [closesOnLine, hq, hn, ih, beq_false_of_ne hb]

theorem cutString_eq_none_iff {text : List Char} :
    Lexeme.cutString text = none ↔ closesOnLine false text = false := by
  rw [← isSome_cutString, Option.isSome_eq_false_iff, Option.isNone_iff_eq_none]

theorem lexemes_cons (c : Char) (text : List Char) :
    lexemes (c :: text) = (Lexeme.next c text).1 :: lexemes (Lexeme.next c text).2 := by
  rw [lexemes]

@[simp] theorem mask_nil (keepStrings : Bool) : mask keepStrings [] = [] := by
  simp [mask, lexemes]

theorem mask_cons (keepStrings : Bool) (c : Char) (text : List Char) :
    mask keepStrings (c :: text) =
      (Lexeme.next c text).1.masked keepStrings ++ mask keepStrings (Lexeme.next c text).2 := by
  rw [mask, lexemes, List.flatMap_cons, mask]

end EnumExport
