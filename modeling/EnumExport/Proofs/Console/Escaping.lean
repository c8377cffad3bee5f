import EnumExport.Console.Markup
import EnumExport.Proofs.Lists
import Mathlib.Data.List.TakeWhile

namespace EnumExport

namespace Markup

def firstBracket (text : List Char) : Option Char := (text.dropWhile isInside).head?

def IsTagInside (inner : List Char) : Prop :=
  ∃ c text, inner = c :: text ∧ opensTag c = true ∧ ∀ d ∈ text, isInside d = true

theorem isInside_of_opensTag {c : Char} (h : opensTag c = true) : isInside c = true := by
  have hc : c ≠ '[' ∧ c ≠ ']' := by
    constructor <;> rintro rfl <;> revert h <;> decide
  simp [isInside, hc]

theorem insideTag?_eq_some_iff {text inner rest : List Char} :
    insideTag? text = some (inner, rest) ↔ IsTagInside inner ∧ text = inner ++ ']' :: rest := by
  constructor
  · intro h
    unfold insideTag? at h
    split at h
    · simp at h
    · rename_i c text
      split at h
      · rename_i hc
        split at h
        · rename_i r hd
          simp only [Option.some.injEq, Prod.mk.injEq] at h
          obtain ⟨rfl, rfl⟩ := h
          have htext := List.takeWhile_append_dropWhile (p := isInside) (l := text)
          refine ⟨⟨c, _, rfl, hc, fun d hd => List.mem_takeWhile_imp hd⟩, ?_⟩
          rw [List.cons_append, ← hd, htext]
        · simp at h
      · simp at h
  · rintro ⟨⟨c, text, rfl, hc, hin⟩, rfl⟩
    have hstop : isInside ']' = false := by decide
    simp [insideTag?, hc, List.takeWhile_append_of_pos hin, List.dropWhile_append_of_pos hin, hstop]

theorem isSome_insideTag?_iff {text : List Char} :
    (insideTag? text).isSome = true ↔
      (∃ c, text.head? = some c ∧ opensTag c = true) ∧ firstBracket text = some ']' := by
  cases text with
  | nil => simp [insideTag?]
  | cons c text =>
    by_cases hc : opensTag c = true
    · simp only [insideTag?, hc, if_true, firstBracket, List.dropWhile_cons,
        isInside_of_opensTag hc]
      cases text.dropWhile isInside with
      | nil => simp
      | cons d rest => by_cases hd : d = ']' <;> simp [hd, hc]
    · simp [insideTag?, hc]

theorem match?_backslash (text : List Char) :
    match? ('\\' :: text) =
      (match? text).map fun m => ⟨m.backslashes + 1, m.inner, m.rest⟩ := by
  unfold match?
  simp only [List.dropWhile_cons, List.takeWhile_cons, beq_self_eq_true, if_true, List.length_cons]
  split
  · simp [Option.map_map, Function.comp_def]
  · rfl

theorem match?_bracket (text : List Char) :
    match? ('[' :: text) = (insideTag? text).map fun (inner, rest) => ⟨0, inner, rest⟩ := by
  simp [match?]

theorem match?_other {c : Char} (text : List Char) (hb : c ≠ '\\') (ho : c ≠ '[') :
    match? (c :: text) = none := by
  simp [match?, hb, ho]

theorem match?_tag (n : Nat) {inner : List Char} (rest : List Char) (h : IsTagInside inner) :
    match? (backslashes n ++ '[' :: inner ++ ']' :: rest) = some ⟨n, inner, rest⟩ := by
  induction n with
  | zero =>
    have hinside : insideTag? (inner ++ ']' :: rest) = some (inner, rest) :=
      insideTag?_eq_some_iff.mpr ⟨h, rfl⟩
    simp only [backslashes, List.replicate_zero, List.nil_append, List.cons_append, match?_bracket,
      hinside, Option.map_some]
  | succ n ih =>
    have hsucc : backslashes (n + 1) = '\\' :: backslashes n := List.replicate_succ
    rw [hsucc, List.cons_append, List.cons_append, match?_backslash, ih, Option.map_some]

theorem exists_of_match? {text : List Char} {m : Match} (h : match? text = some m) :
    IsTagInside m.inner ∧ text = backslashes m.backslashes ++ '[' :: m.inner ++ ']' :: m.rest := by
  induction text generalizing m with
  | nil => simp [match?] at h
  | cons c text ih =>
    by_cases hb : c = '\\'
    · rw [hb, match?_backslash] at h
      obtain ⟨m, hm, rfl⟩ := Option.map_eq_some_iff.mp h
      obtain ⟨hin, ht⟩ := ih hm
      refine ⟨hin, ?_⟩
      rw [hb, ht, backslashes, backslashes, List.replicate_succ]
      rfl
    · by_cases ho : c = '['
      · rw [ho, match?_bracket] at h
        obtain ⟨⟨inner, rest⟩, hinside, rfl⟩ := Option.map_eq_some_iff.mp h
        obtain ⟨hin, rfl⟩ := insideTag?_eq_some_iff.mp hinside
        exact ⟨hin, by simp [ho, backslashes]⟩
      · simp [match?_other text hb ho] at h

structure Neutral (tail : List Char) : Prop where
  no_match : match? tail = none
  no_opening : ∀ c, tail.head? = some c → opensTag c = false
  no_closing : firstBracket tail ≠ some ']'

theorem neutral_nil : Neutral [] := by
  refine ⟨by simp [match?], by simp, by simp [firstBracket]⟩

theorem Neutral.backslash {tail : List Char} (h : Neutral tail) : Neutral ('\\' :: tail) := by
  refine ⟨by simp [match?_backslash, h.no_match], ?_, ?_⟩
  · intro c hc
    obtain rfl : '\\' = c := by simpa using hc
    decide
  · have hin : isInside '\\' = true := by decide
    simpa [firstBracket, hin] using h.no_closing

theorem escapeTags_match {text : List Char} {m : Match} (h : match? text = some m) :
    escapeTags text =
      backslashes (2 * m.backslashes + 1) ++ '[' :: m.inner ++ ']' :: escapeTags m.rest := by
  rw [escapeTags]
  split <;> simp_all

theorem escapeTags_cons {c : Char} {text : List Char} (h : match? (c :: text) = none) :
    escapeTags (c :: text) = c :: escapeTags text := by
  rw [escapeTags]
  split <;> simp_all

theorem escapeTags_nil : escapeTags [] = [] := by
  rw [escapeTags]
  split
  · simp_all [match?]
  · rfl

theorem firstBracket_backslashes (n : Nat) (text : List Char) :
    firstBracket (backslashes n ++ '[' :: text) = some '[' := by
  induction n with
  | zero => simp [firstBracket, backslashes, isInside]
  | succ n ih =>
    have hin : isInside '\\' = true := by decide
    simpa [firstBracket, backslashes, List.replicate_succ, hin] using ih

theorem firstBracket_escapeTags (text tail : List Char) :
    firstBracket (escapeTags text ++ tail) = firstBracket (text ++ tail) := by
  induction text using escapeTags.induct with
  | case1 text m hm ih =>
    obtain ⟨-, ht⟩ := exists_of_match? hm
    rw [escapeTags_match hm]
    conv => rhs; rw [ht]
    simp only [List.append_assoc, List.cons_append, firstBracket_backslashes]
  | case2 => rw [escapeTags_nil]
  | case3 c rest hm ih =>
    rw [escapeTags_cons hm, List.cons_append, List.cons_append]
    by_cases hc : isInside c = true
    · simpa [firstBracket, hc] using ih
    · simp [firstBracket, hc]

theorem head?_escapeTags {text tail : List Char} {c : Char} (ht : Neutral tail)
    (hc : opensTag c = true) (h : (escapeTags text ++ tail).head? = some c) :
    text.head? = some c := by
  cases hm : match? text with
  | some m =>
    rw [escapeTags_match hm, backslashes, List.replicate_succ] at h
    obtain rfl : '\\' = c := by simpa using h
    exact absurd hc (by decide)
  | none =>
    cases text with
    | nil =>
      rw [escapeTags_nil, List.nil_append] at h
      simp [ht.no_opening c h] at hc
    | cons d text =>
      rw [escapeTags_cons hm] at h
      exact h

theorem match?_escapeTags {text tail : List Char} (ht : Neutral tail) (h : match? text = none) :
    match? (escapeTags text ++ tail) = none := by
  induction text with
  | nil =>
    rw [escapeTags_nil]
    exact ht.no_match
  | cons c text ih =>
    rw [escapeTags_cons h, List.cons_append]
    by_cases hb : c = '\\'
    · rw [hb, match?_backslash, Option.map_eq_none_iff] at h ⊢
      exact ih h
    · by_cases ho : c = '['
      · rw [ho, match?_bracket, Option.map_eq_none_iff] at h ⊢
        rw [← Option.not_isSome_iff_eq_none, isSome_insideTag?_iff] at h ⊢
        rintro ⟨⟨d, hd, hopens⟩, hfirst⟩
        have hhead := head?_escapeTags ht hopens hd
        refine h ⟨⟨d, hhead, hopens⟩, ?_⟩
        -- Escaping does not change which bracket comes first, so the tag would have been there.
        rw [firstBracket_escapeTags] at hfirst
        by_cases hall : ∀ x ∈ text, isInside x = true
        · rw [firstBracket, List.dropWhile_append_of_pos hall] at hfirst
          exact absurd hfirst ht.no_closing
        · have hne : text.dropWhile isInside ≠ [] := fun hn =>
            hall (List.dropWhile_eq_nil_iff.mp hn)
          rw [firstBracket, dropWhile_append_of_ne_nil tail hne,
            List.head?_append_of_ne_nil _ hne] at hfirst
          exact hfirst
      · exact match?_other _ hb ho

theorem piecesFrom_match {position : Nat} {plain text : List Char} {m : Match}
    (h : match? text = some m) :
    piecesFrom position plain text =
      plainPiece plain.reverse ++ matchPieces position m ++
        piecesFrom (position + (text.length - m.rest.length)) [] m.rest := by
  rw [piecesFrom]
  split <;> simp_all

theorem piecesFrom_cons {position : Nat} {plain text : List Char} {c : Char}
    (h : match? (c :: text) = none) :
    piecesFrom position plain (c :: text) = piecesFrom (position + 1) (c :: plain) text := by
  rw [piecesFrom]
  split <;> simp_all

theorem piecesFrom_nil (position : Nat) (plain : List Char) :
    piecesFrom position plain [] = plainPiece plain.reverse := by
  rw [piecesFrom]
  split
  · simp_all [match?]
  · rfl

theorem exists_plainPiece (text : List Char) :
    ∃ plains : List (List Char), plainPiece text = plains.map .plain ∧ plains.flatten = text := by
  by_cases h : text = []
  · exact ⟨[], by simp [plainPiece, h]⟩
  · exact ⟨[text], by simp [plainPiece, h]⟩

theorem piecesFrom_escapeTags (position : Nat) (plain text : List Char) {tail : List Char}
    (ht : Neutral tail) :
    ∃ (plains : List (List Char)) (position' : Nat) (plain' : List Char),
      piecesFrom position plain (escapeTags text ++ tail) =
          plains.map .plain ++ piecesFrom position' plain' tail ∧
        plains.flatten ++ plain'.reverse = plain.reverse ++ text := by
  induction text using escapeTags.induct generalizing position plain with
  | case1 text m hm ih =>
    obtain ⟨hin, htext⟩ := exists_of_match? hm
    have hmatch := match?_tag (2 * m.backslashes + 1) (escapeTags m.rest ++ tail) hin
    have hsplit : escapeTags text ++ tail = backslashes (2 * m.backslashes + 1) ++
        '[' :: m.inner ++ ']' :: (escapeTags m.rest ++ tail) := by
      rw [escapeTags_match hm]
      simp
    rw [hsplit, piecesFrom_match hmatch]
    obtain ⟨before, hbefore, hplain⟩ := exists_plainPiece plain.reverse
    obtain ⟨literal, hliteral, hback⟩ := exists_plainPiece (backslashes m.backslashes)
    obtain ⟨plains, position', plain', hrest, hflat⟩ := ih _ []
    -- The odd number of backslashes makes the tag plain text, and leaves half of them in front.
    have hodd : (2 * m.backslashes + 1) % 2 = 1 := by omega
    have hhalf : (2 * m.backslashes + 1) / 2 = m.backslashes := by omega
    refine ⟨before ++ literal ++ ['[' :: m.inner ++ [']']] ++ plains, position', plain', ?_, ?_⟩
    · rw [hrest, matchPieces, if_pos hodd, hhalf, hbefore, hliteral]
      simp
    · simp only [List.flatten_append, List.flatten_cons, List.flatten_nil, List.append_assoc,
        hplain, hback, hflat]
      conv => rhs; rw [htext]
      simp
  | case2 => exact ⟨[], position, plain, by simp [escapeTags_nil]⟩
  | case3 c rest hm ih =>
    have hnone := match?_escapeTags ht hm
    rw [escapeTags_cons hm, List.cons_append] at hnone ⊢
    rw [piecesFrom_cons hnone]
    obtain ⟨plains, position', plain', hrest, hflat⟩ := ih (position + 1) (c :: plain)
    exact ⟨plains, position', plain', hrest, by simpa using hflat⟩

def escapeEnd (text : List Char) : List Char :=
  if endsInBackslash (escapeTags text) then ['\\'] else []

theorem escape_eq (text : List Char) : escape text = escapeTags text ++ escapeEnd text := by
  unfold escape escapeEnd
  by_cases h : endsInBackslash (escapeTags text) = true <;> simp [h]

theorem piecesFrom_escape (position : Nat) (plain text : List Char) {tail : List Char}
    (ht : Neutral tail) :
    ∃ (plains : List (List Char)) (position' : Nat) (plain' : List Char),
      piecesFrom position plain (escape text ++ tail) =
          plains.map .plain ++ piecesFrom position' plain' tail ∧
        plains.flatten ++ plain'.reverse = plain.reverse ++ text ++ escapeEnd text := by
  rw [escape_eq, escapeEnd]
  split
  · obtain ⟨plains, position', plain', hrest, hflat⟩ :=
      piecesFrom_escapeTags position plain text ht.backslash
    rw [piecesFrom_cons ht.backslash.no_match] at hrest
    refine ⟨plains, position' + 1, '\\' :: plain', ?_, ?_⟩
    · rw [List.append_assoc, List.singleton_append, hrest]
    · rw [List.reverse_cons, ← List.append_assoc, hflat]
  · simpa using piecesFrom_escapeTags position plain text ht

end Markup

end EnumExport
