import EnumExport.Proofs.Reading.Extension

namespace EnumExport

open Glyph

variable {α : Type}

namespace Glyph

theorem skipBlanks_suffix (gs : List (Glyph α)) : skipBlanks gs <:+ gs := List.dropWhile_suffix _

theorem afterWord_suffix (gs : List (Glyph α)) : afterWord gs <:+ gs := List.dropWhile_suffix _

theorem isWord_of_head?_afterWord {gs : List (Glyph α)} {c : Char}
    (h : c ∈ (text (afterWord gs)).head?) : EnumExport.isWord c = false := by
  have hstop := List.head?_dropWhile_not Glyph.isWord gs
  rw [← afterWord] at hstop
  cases hrest : afterWord gs with
  | nil => simp [hrest, text] at h
  | cons g rest =>
    rw [hrest] at h hstop
    obtain rfl := Option.some.inj h
    simpa [Glyph.isWord] using hstop

theorem afterBlanks?_suffix {gs rest : List (Glyph α)} (h : afterBlanks? gs = some rest) :
    rest <:+ gs := by
  rw [← skipBlanks_of_afterBlanks? h]
  exact skipBlanks_suffix gs

theorem tail_suffix_of_suffix {g : Glyph α} {rest gs : List (Glyph α)} (h : g :: rest <:+ gs) :
    rest <:+ gs := (List.suffix_cons g rest).trans h

theorem afterOptionalGroup_suffix (gs : List (Glyph α)) : afterOptionalGroup gs <:+ gs := by
  obtain ⟨front, hgs, -⟩ := takesOff_afterGroup?.exists_front gs
  exact ⟨front, hgs.symm⟩

theorem spanOpened?_suffix {more : Glyph α → Bool} {opening gs name rest : List (Glyph α)}
    (h : spanOpened? more opening gs = some (name, rest)) : rest <:+ gs := by
  have hdrop := @List.dropWhile_suffix _ gs more
  unfold spanOpened? at h
  split at h
  · split at h
    · obtain ⟨-, rfl⟩ := Prod.mk.inj (Option.some.inj h)
      exact List.nil_suffix
    · rename_i g after hd
      rw [hd] at hdrop
      split at h
      · obtain ⟨-, rfl⟩ := Prod.mk.inj (Option.some.inj h)
        exact tail_suffix_of_suffix hdrop
      · obtain ⟨-, rfl⟩ := Prod.mk.inj (Option.some.inj h)
        exact hdrop
  · simp at h

theorem spanName?_suffix {more : Glyph α → Bool} {gs name rest : List (Glyph α)}
    (h : spanName? more gs = some (name, rest)) : rest <:+ gs := by
  cases gs with
  | nil => simp [spanName?, startsName] at h
  | cons g gs =>
    rw [spanName?_cons] at h
    split at h
    · exact (spanOpened?_suffix h).trans (List.suffix_cons g gs)
    · exact spanOpened?_suffix h

end Glyph

theorem afterOptionalSetter_suffix (gs : List (Glyph α)) : afterOptionalSetter gs <:+ gs := by
  obtain ⟨front, hgs, -⟩ := takesOff_afterSetter?.exists_front gs
  exact ⟨front, hgs.symm⟩

theorem headerItems?_suffix {gs : List (Glyph α)} {header : Header α}
    (h : headerItems? gs = some header) : header.rest <:+ gs := by
  induction gs using headerItems?.induct with
  | case1 gs hb =>
    rw [headerItems?] at h
    split at h <;> simp_all
  | case2 gs hb =>
    rw [headerItems?] at h
    split at h <;> simp_all
  | case3 gs g rest hb hat hname ih =>
    rw [headerItems?_of_afterBlanks? hb, if_pos hat, if_pos hname] at h
    have hafter := (afterOptionalGroup_suffix (rest.dropWhile isQualified)).trans
      (List.dropWhile_suffix _)
    exact (ih h).trans (hafter.trans (tail_suffix_of_suffix (afterBlanks?_suffix hb)))
  | case4 gs g rest hb hat hname =>
    rw [headerItems?_of_afterBlanks? hb, if_pos hat, if_neg hname] at h
    simp at h
  | case5 gs g rest hb hat hword ih =>
    rw [headerItems?_of_afterBlanks? hb, if_neg hat, if_pos hword] at h
    have hafter := (afterOptionalSetter_suffix (afterWord (g :: rest))).trans
      (afterWord_suffix (g :: rest))
    exact (ih h).trans (hafter.trans (afterBlanks?_suffix hb))
  | case6 gs g rest hb hat hword =>
    rw [headerItems?_of_afterBlanks? hb, if_neg hat, if_neg hword] at h
    obtain ⟨named, -, hnamed, hname⟩ := keywordAndName?_eq_some_iff.mp h
    exact (spanName?_suffix hname).trans ((afterBlanks?_suffix hnamed).trans
      ((afterWord_suffix (g :: rest)).trans (afterBlanks?_suffix hb)))

theorem header?_suffix {gs : List (Glyph α)} {header : Header α} (h : header? gs = some header) :
    header.rest <:+ gs :=
  (headerItems?_suffix h).trans (afterOptionalGroup_suffix gs)

theorem occurrences_suffix {marker : List Char} {line : Nat} {gs : List (Glyph α)}
    {found : Nat × List (Glyph α)} (h : found ∈ occurrences marker line gs) : found.2 <:+ gs := by
  induction gs generalizing line with
  | nil => simp [occurrences] at h
  | cons g gs ih =>
    have hcons : gs <:+ g :: gs := List.suffix_cons g gs
    simp only [occurrences] at h
    split at h
    · exact (ih h).trans hcons
    · split at h
      · rcases List.mem_cons.mp h with rfl | h
        · exact (afterWord_suffix gs).trans hcons
        · exact (ih h).trans hcons
      · exact (ih h).trans hcons

theorem headers_suffix {marker : List Char} {gs : List (Glyph α)} {found : Nat × Header α}
    (h : found ∈ headers marker gs) : found.2.rest <:+ gs := by
  obtain ⟨⟨line, rest⟩, hmem, hfound⟩ := List.mem_filterMap.mp h
  obtain ⟨header, hheader, rfl⟩ := Option.map_eq_some_iff.mp hfound
  exact (header?_suffix hheader).trans (occurrences_suffix hmem)

theorem isInfix_of_body? {rest inside : List (Glyph α)} (h : body? rest = .ok inside) :
    inside <:+: rest := by
  have hdrop := @List.dropWhile_suffix _ rest (·.shown != '{')
  unfold body? at h
  split at h
  · simp at h
  · rename_i brace tail hd
    rw [hd] at hdrop
    split at h
    · simp at h
    · rename_i inside' after hb
      obtain rfl := Except.ok.inj h
      obtain ⟨close, -, rfl⟩ := blockInside?_append hb
      exact (List.prefix_append inside' (close :: after)).isInfix.trans
        (tail_suffix_of_suffix hdrop).isInfix

end EnumExport
