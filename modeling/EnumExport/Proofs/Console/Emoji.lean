import EnumExport.Console.Emoji
import EnumExport.Proofs.Lists
import Mathlib.Data.List.TakeWhile

namespace EnumExport

namespace Emoji

def IsCode (code : List Char) : Prop := ∀ c ∈ code, isCodeChar c = true

def NamesNone (text : List Char) : Prop :=
  ∀ code, IsCode code → ':' :: (code ++ [':']) <:+: text → picture? code = none

theorem NamesNone.of_infix {text part : List Char} (h : NamesNone text) (hpart : part <:+: text) :
    NamesNone part := fun code hcode hwithin => h code hcode (hwithin.trans hpart)

theorem namesNone_of_count {text : List Char} (h : text.count ':' ≤ 1) : NamesNone text := by
  intro code _ hwithin
  have hle := hwithin.sublist.count_le ':'
  rw [List.count_cons_self, List.count_append, List.count_singleton_self] at hle
  omega

theorem replace_cons_of_ne {c : Char} (text : List Char) (h : c ≠ ':') :
    replace (c :: text) = c :: replace text := by rw [replace, if_neg h]

theorem replace_append_of_not_mem {front : List Char} (rest : List Char) (h : ':' ∉ front) :
    replace (front ++ rest) = front ++ replace rest := by
  induction front with
  | nil => rfl
  | cons c front ih =>
    rw [List.mem_cons, not_or] at h
    rw [List.cons_append, replace_cons_of_ne _ (Ne.symm h.1), ih h.2, List.cons_append]

theorem replace_code {code : List Char} (rest : List Char) (h : IsCode code) :
    replace (':' :: (code ++ ':' :: rest)) = shown code ++ replace rest := by
  have hstop : ∀ c ∈ (':' :: rest).head?, isCodeChar c = false :=
    forall_mem_head?_cons rest (by decide)
  have hdrop := dropWhile_append_of_stop h hstop
  rw [replace, if_pos rfl]
  split
  · rename_i rest' hrest
    obtain ⟨-, rfl⟩ := List.cons.inj (hrest.symm.trans hdrop)
    rw [takeWhile_append_of_stop h hstop]
  · rename_i hnone
    exact absurd hdrop (hnone rest)

theorem replace_eq_self {text : List Char} (h : NamesNone text) : replace text = text := by
  induction text using replace.induct with
  | case1 => rw [replace]
  | case2 text rest hrest ih =>
    have hcode : IsCode (text.takeWhile isCodeChar) := fun c hc => List.mem_takeWhile_imp hc
    have htext : text = text.takeWhile isCodeChar ++ ':' :: rest := by
      rw [← hrest, List.takeWhile_append_dropWhile]
    have hfront : ':' :: text = (':' :: (text.takeWhile isCodeChar ++ [':'])) ++ rest := by
      conv => lhs; rw [htext]
      simp
    have hnone := h _ hcode (hfront ▸ (List.prefix_append _ rest).isInfix)
    have hbehind : rest <:+: ':' :: text := hfront ▸ (List.suffix_append _ rest).isInfix
    rw [htext, replace_code rest hcode, ih (h.of_infix hbehind), shown, hnone, Option.getD_none]
    simp
  | case3 text hrest ih =>
    rw [replace, if_pos rfl, ih (h.of_infix (List.suffix_cons _ _).isInfix)]
    split
    · rename_i rest hdrop
      exact absurd hdrop (hrest rest)
    · rfl
  | case4 c text hc ih =>
    rw [replace_cons_of_ne text hc, ih (h.of_infix (List.suffix_cons _ _).isInfix)]

end Emoji

def IsNumber (word : List Char) : Prop := word ≠ [] ∧ ∀ c ∈ word, c.isDigit = true

instance (word : List Char) : Decidable (IsNumber word) := inferInstanceAs (Decidable (_ ∧ _))

namespace Emoji

theorem picture?_of_isDigit {code : List Char} (h : ∀ c ∈ code, c.isDigit = true) :
    picture? code = table.lookup code := by
  have hnone : ∀ variant ∈ variants, ¬ variant.1.isSuffixOf code = true := by
    intro variant hvariant hsuffix
    have hdash : '-' ∈ variant.1 := by
      simp only [variants, List.mem_cons, List.not_mem_nil, or_false] at hvariant
      rcases hvariant with rfl | rfl <;> decide
    have hdigit := h '-' ((List.isSuffixOf_iff_suffix.mp hsuffix).subset hdash)
    exact absurd hdigit (by decide)
  rw [picture?, List.find?_eq_none.mpr hnone]

theorem picture?_eq_none {code : List Char} (h : ∀ c ∈ code, c.isDigit = true)
    (hhundred : code ≠ "100".toList) (hfigures : code ≠ "1234".toList) : picture? code = none := by
  have hsigned (sign : Char) (hsign : sign.isDigit = false) (rest : List Char) :
      code ≠ sign :: rest := by
    rintro rfl
    rw [h sign (List.mem_cons_self ..)] at hsign
    exact absurd hsign (by decide)
  have hminus : code ≠ "-1".toList := hsigned '-' (by decide) ['1']
  have hplus : code ≠ "+1".toList := hsigned '+' (by decide) ['1']
  rw [picture?_of_isDigit h]
  simp only [table, List.lookup_cons, List.lookup_nil, beq_false_of_ne hhundred,
    beq_false_of_ne hfigures, beq_false_of_ne hminus, beq_false_of_ne hplus]

end Emoji

end EnumExport
