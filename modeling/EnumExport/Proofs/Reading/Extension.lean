import EnumExport.Proofs.Reading.Parentheses
import EnumExport.Source.Reader

namespace EnumExport

open Glyph

variable {α : Type}

namespace Glyph

theorem afterBlanks?_append {gs : List (Glyph α)} {g : Glyph α} {rest : List (Glyph α)}
    (more : List (Glyph α)) (h : afterBlanks? gs = some (g :: rest)) :
    afterBlanks? (gs ++ more) = some (g :: (rest ++ more)) := by
  cases gs with
  | nil => simp [afterBlanks?] at h
  | cons b gs =>
    simp only [afterBlanks?, List.cons_append] at h ⊢
    split at h
    · rename_i hb
      simp only [Option.some.injEq] at h
      rw [if_pos hb, skipBlanks, dropWhile_append_of_ne_nil more (by rw [← skipBlanks, h]; simp)]
      rw [← skipBlanks, h, List.cons_append]
    · simp at h

theorem skipBlanks_append {gs : List (Glyph α)} (more : List (Glyph α)) (h : skipBlanks gs ≠ []) :
    skipBlanks (gs ++ more) = skipBlanks gs ++ more := dropWhile_append_of_ne_nil more h

theorem skipBlanks_of_afterBlanks? {gs rest : List (Glyph α)} (h : afterBlanks? gs = some rest) :
    skipBlanks gs = rest := by
  cases gs with
  | nil => simp [afterBlanks?] at h
  | cons b gs =>
    simp only [afterBlanks?] at h
    split at h
    · rename_i hb
      simp only [Option.some.injEq] at h
      rw [← h]
      simp [skipBlanks, hb]
    · simp at h

theorem leadingWord_append {gs : List (Glyph α)} (more : List (Glyph α)) (h : afterWord gs ≠ []) :
    leadingWord (gs ++ more) = leadingWord gs := by
  rw [leadingWord, takeWhile_append_of_dropWhile_ne_nil more h, leadingWord]

theorem afterWord_append {gs : List (Glyph α)} (more : List (Glyph α)) (h : afterWord gs ≠ []) :
    afterWord (gs ++ more) = afterWord gs ++ more := dropWhile_append_of_ne_nil more h

def spanOpened? (more : Glyph α → Bool) (opening gs : List (Glyph α)) :
    Option (List (Glyph α) × List (Glyph α)) :=
  if startsName gs then
    match gs.dropWhile more with
    | [] => some (opening ++ gs.takeWhile more, [])
    | g :: rest =>
      if g.isTick then some (opening ++ gs.takeWhile more ++ [g], rest)
      else some (opening ++ gs.takeWhile more, g :: rest)
  else none

theorem spanName?_cons (more : Glyph α → Bool) (g : Glyph α) (gs : List (Glyph α)) :
    spanName? more (g :: gs) =
      if g.isTick then spanOpened? more [g] gs else spanOpened? more [] (g :: gs) := by
  have hopened : spanName? more (g :: gs) =
      spanOpened? more (if g.isTick then ([g], gs) else ([], g :: gs)).1
        (if g.isTick then ([g], gs) else ([], g :: gs)).2 := rfl
  rw [hopened]
  by_cases hg : g.isTick = true
  · rw [if_pos hg, if_pos hg]
  · rw [if_neg hg, if_neg hg]

theorem spanOpened?_append {more : Glyph α → Bool} {opening gs name rest : List (Glyph α)}
    (tail : List (Glyph α)) (h : spanOpened? more opening gs = some (name, rest))
    (hrest : rest ≠ []) : spanOpened? more opening (gs ++ tail) = some (name, rest ++ tail) := by
  unfold spanOpened? at h
  split at h
  · rename_i hs
    have hs' : startsName (gs ++ tail) = true := by
      cases gs with
      | nil => simp [startsName] at hs
      | cons g gs => exact hs
    split at h
    · simp_all
    · rename_i g after hd
      have hne : gs.dropWhile more ≠ [] := by simp [hd]
      rw [spanOpened?, if_pos hs', dropWhile_append_of_ne_nil tail hne,
        takeWhile_append_of_dropWhile_ne_nil tail hne, hd]
      simp only [List.cons_append]
      split at h
      · rename_i hg
        simp only [Option.some.injEq, Prod.mk.injEq] at h
        obtain ⟨rfl, rfl⟩ := h
        rw [if_pos hg]
      · rename_i hg
        simp only [Option.some.injEq, Prod.mk.injEq] at h
        obtain ⟨rfl, rfl⟩ := h
        rw [if_neg hg, List.cons_append]
  · simp at h

theorem spanName?_append {more : Glyph α → Bool} {gs name rest : List (Glyph α)}
    (tail : List (Glyph α)) (h : spanName? more gs = some (name, rest)) (hrest : rest ≠ []) :
    spanName? more (gs ++ tail) = some (name, rest ++ tail) := by
  cases gs with
  | nil => simp [spanName?, startsName] at h
  | cons g gs =>
    rw [spanName?_cons] at h
    rw [List.cons_append, spanName?_cons]
    split at h
    · rename_i hg
      rw [if_pos hg, spanOpened?_append tail h hrest]
    · rename_i hg
      rw [if_neg hg, ← List.cons_append, spanOpened?_append tail h hrest]

end Glyph

theorem keywordAndName?_eq_some_iff {gs : List (Glyph α)} {header : Header α} :
    keywordAndName? gs = some header ↔
      ∃ named, DeclarationKind.ofKeyword? (leadingWord gs) = some header.kind ∧
        afterBlanks? (afterWord gs) = some named ∧
        spanName? isQualified named = some (header.name, header.rest) := by
  simp only [keywordAndName?, Option.bind_eq_bind, Option.bind_eq_some_iff, Option.pure_def,
    Option.some.injEq]
  constructor
  · rintro ⟨kind, hkind, named, hnamed, ⟨name, rest⟩, hname, rfl⟩
    exact ⟨named, hkind, hnamed, hname⟩
  · rintro ⟨named, hkind, hnamed, hname⟩
    exact ⟨header.kind, hkind, named, hnamed, (header.name, header.rest), hname, rfl⟩

theorem afterWord_ne_nil {gs : List (Glyph α)} {header : Header α}
    (h : keywordAndName? gs = some header) : afterWord gs ≠ [] := by
  obtain ⟨named, -, hnamed, -⟩ := keywordAndName?_eq_some_iff.mp h
  intro he
  simp [he, afterBlanks?] at hnamed

theorem keywordAndName?_append {gs : List (Glyph α)} {header : Header α} (more : List (Glyph α))
    (h : keywordAndName? gs = some header) (hrest : header.rest ≠ []) :
    keywordAndName? (gs ++ more) = some { header with rest := header.rest ++ more } := by
  have hafter := afterWord_ne_nil h
  obtain ⟨named, hkind, hnamed, hname⟩ := keywordAndName?_eq_some_iff.mp h
  have hne : named ≠ [] := by
    rintro rfl
    simp [spanName?, startsName] at hname
  obtain ⟨g, named, rfl⟩ := List.exists_cons_of_ne_nil hne
  apply keywordAndName?_eq_some_iff.mpr
  refine ⟨g :: (named ++ more), ?_, ?_, spanName?_append more hname hrest⟩
  · rw [leadingWord_append more hafter, hkind]
  · rw [afterWord_append more hafter, afterBlanks?_append more hnamed]

theorem headerItems?_of_afterBlanks? {gs : List (Glyph α)} {g : Glyph α} {rest : List (Glyph α)}
    (h : afterBlanks? gs = some (g :: rest)) :
    headerItems? gs =
      if g.shown = '@' then
        if startsName rest then headerItems? (afterOptionalGroup (rest.dropWhile isQualified))
        else none
      else if leadingWord (g :: rest) ∈ modifiers then
        headerItems? (afterOptionalSetter (afterWord (g :: rest)))
      else keywordAndName? (g :: rest) := by
  rw [headerItems?]
  split
  · simp_all
  · simp_all
  · simp_all

theorem headerItems?_eq_none {gs : List (Glyph α)}
    (h : ∀ g rest, Glyph.afterBlanks? gs ≠ some (g :: rest)) : headerItems? gs = none := by
  rw [headerItems?]
  split
  · rfl
  · rfl
  · rename_i hb
    exact absurd hb (h _ _)

theorem headerItems?_paren {gs : List (Glyph α)} {g : Glyph α} {rest : List (Glyph α)}
    (h : skipBlanks gs = g :: rest) (hg : g.shown = '(') : headerItems? gs = none := by
  rw [headerItems?]
  split
  · rfl
  · rfl
  · rename_i hb
    have he := skipBlanks_of_afterBlanks? hb
    rw [h, List.cons.injEq] at he
    obtain ⟨rfl, rfl⟩ := he
    have hnot : g.isWord = false := by
      rw [Glyph.isWord, hg]
      decide
    have hword : leadingWord (g :: rest) = [] := by
      simp [leadingWord, hnot, text]
    have hkind : DeclarationKind.ofKeyword? [] = none := by decide
    have hmodifier : [] ∉ modifiers := by decide
    simp [hg, hword, hmodifier, keywordAndName?, hkind]

theorem headerItems?_nil : headerItems? ([] : List (Glyph α)) = none := by
  rw [headerItems?]
  simp [afterBlanks?]

theorem skipBlanks_ne_nil {gs : List (Glyph α)} {header : Header α}
    (h : headerItems? gs = some header) : skipBlanks gs ≠ [] := by
  rw [headerItems?] at h
  split at h
  · simp at h
  · simp at h
  · rename_i g rest hb
    rw [skipBlanks_of_afterBlanks? hb]
    exact List.cons_ne_nil g rest

theorem exists_skipBlanks_cons {gs : List (Glyph α)} {header : Header α}
    (h : headerItems? gs = some header) (more : List (Glyph α)) :
    ∃ g rest, g.shown ≠ '(' ∧ skipBlanks (gs ++ more) = g :: (rest ++ more) := by
  obtain ⟨g, rest, hs⟩ := List.exists_cons_of_ne_nil (skipBlanks_ne_nil h)
  refine ⟨g, rest, ?_, ?_⟩
  · intro hp
    simp [headerItems?_paren hs hp] at h
  · rw [skipBlanks_append more (by simp [hs]), hs, List.cons_append]

theorem TakesOff.getD_append {after? : List (Glyph α) → Option (List (Glyph α))}
    {inside : List Char → Prop} (hafter : TakesOff after? inside) {gs : List (Glyph α)}
    {header : Header α} (more : List (Glyph α))
    (h : headerItems? ((after? gs).getD gs) = some header) :
    (after? (gs ++ more)).getD (gs ++ more) = (after? gs).getD gs ++ more := by
  cases hgs : after? gs with
  | some rest => rw [hafter.append more hgs, Option.getD_some, Option.getD_some]
  | none =>
    rw [hgs, Option.getD_none] at h
    obtain ⟨g, rest, hp, hskip⟩ := exists_skipBlanks_cons h more
    rw [hafter.eq_none hskip hp, Option.getD_none, Option.getD_none]

theorem afterOptionalGroup_append {gs : List (Glyph α)} {header : Header α}
    (more : List (Glyph α)) (h : headerItems? (afterOptionalGroup gs) = some header) :
    afterOptionalGroup (gs ++ more) = afterOptionalGroup gs ++ more :=
  takesOff_afterGroup?.getD_append more h

theorem afterOptionalSetter_append {gs : List (Glyph α)} {header : Header α}
    (more : List (Glyph α)) (h : headerItems? (afterOptionalSetter gs) = some header) :
    afterOptionalSetter (gs ++ more) = afterOptionalSetter gs ++ more :=
  takesOff_afterSetter?.getD_append more h

theorem headerItems?_append {gs : List (Glyph α)} {header : Header α} (more : List (Glyph α))
    (h : headerItems? gs = some header) (hrest : header.rest ≠ []) :
    headerItems? (gs ++ more) = some { header with rest := header.rest ++ more } := by
  induction gs using headerItems?.induct with
  | case1 gs hb =>
    rw [headerItems?] at h
    split at h <;> simp_all
  | case2 gs hb =>
    rw [headerItems?] at h
    split at h <;> simp_all
  | case3 gs g rest hb hat hname ih =>
    rw [headerItems?_of_afterBlanks? hb, if_pos hat, if_pos hname] at h
    have hname' : startsName (rest ++ more) = true := by
      cases rest with
      | nil => simp [startsName] at hname
      | cons d rest => exact hname
    have hqualified : rest.dropWhile isQualified ≠ [] := by
      intro hn
      rw [hn] at h
      simp [afterOptionalGroup, afterGroup?, skipBlanks, headerItems?_nil] at h
    rw [headerItems?_of_afterBlanks? (afterBlanks?_append more hb),
      if_pos hat, if_pos hname', dropWhile_append_of_ne_nil more hqualified,
      afterOptionalGroup_append more h, ih h]
  | case4 gs g rest hb hat hname =>
    rw [headerItems?_of_afterBlanks? hb, if_pos hat, if_neg hname] at h
    simp at h
  | case5 gs g rest hb hat hword ih =>
    rw [headerItems?_of_afterBlanks? hb, if_neg hat, if_pos hword] at h
    -- The word ends inside the text, because a header needs more than the word.
    have hafter : afterWord (g :: rest) ≠ [] := by
      intro hn
      rw [hn] at h
      simp [afterOptionalSetter, afterSetter?, skipBlanks, headerItems?_nil] at h
    rw [headerItems?_of_afterBlanks? (afterBlanks?_append more hb), if_neg hat,
      ← List.cons_append, leadingWord_append more hafter, if_pos hword,
      afterWord_append more hafter, afterOptionalSetter_append more h, ih h]
  | case6 gs g rest hb hat hword =>
    rw [headerItems?_of_afterBlanks? hb, if_neg hat, if_neg hword] at h
    rw [headerItems?_of_afterBlanks? (afterBlanks?_append more hb), if_neg hat,
      ← List.cons_append, leadingWord_append more (afterWord_ne_nil h), if_neg hword,
      keywordAndName?_append more h hrest]

theorem header?_append {gs : List (Glyph α)} {header : Header α} (more : List (Glyph α))
    (h : header? gs = some header) (hrest : header.rest ≠ []) :
    header? (gs ++ more) = some { header with rest := header.rest ++ more } := by
  unfold header? at h ⊢
  rw [afterOptionalGroup_append more h, headerItems?_append more h hrest]

theorem map_cons_append_right {found more : Option (List (Glyph α) × List (Glyph α))}
    {g : Glyph α} {inside after tail : List (Glyph α)}
    (hmore : ∀ inner, found = some (inner, after) → more = some (inner, after ++ tail))
    (h : found.map (fun (inner, rest) => (g :: inner, rest)) = some (inside, after)) :
    more.map (fun (inner, rest) => (g :: inner, rest)) = some (inside, after ++ tail) := by
  obtain ⟨⟨inner, rest⟩, hfound, he⟩ := Option.map_eq_some_iff.mp h
  simp only [Prod.mk.injEq] at he
  obtain ⟨rfl, rfl⟩ := he
  rw [hmore inner hfound, Option.map_some]

theorem blockInside?_append_right {depth : Nat} {gs inside after : List (Glyph α)}
    (more : List (Glyph α)) (h : blockInside? depth gs = some (inside, after)) :
    blockInside? depth (gs ++ more) = some (inside, after ++ more) := by
  induction gs generalizing depth inside with
  | nil => simp [blockInside?] at h
  | cons g gs ih =>
    rw [List.cons_append]
    simp only [blockInside?] at h ⊢
    split at h
    · rename_i hopen
      rw [if_pos hopen]
      exact map_cons_append_right (fun _ => ih) h
    · rename_i hopen
      rw [if_neg hopen]
      split at h
      · rename_i hclose
        rw [if_pos hclose]
        split at h
        · simp only [Option.some.injEq, Prod.mk.injEq] at h
          obtain ⟨rfl, rfl⟩ := h
          rfl
        · exact map_cons_append_right (fun _ => ih) h
      · rename_i hclose
        rw [if_neg hclose]
        exact map_cons_append_right (fun _ => ih) h

theorem body?_append {rest inside : List (Glyph α)} (more : List (Glyph α))
    (h : body? rest = .ok inside) : body? (rest ++ more) = .ok inside := by
  unfold body? at h
  split at h
  · simp at h
  · rename_i brace tail hd
    split at h
    · simp at h
    · rename_i inside' after hb
      simp only [Except.ok.injEq] at h
      subst h
      rw [body?, dropWhile_append_of_ne_nil more (by simp [hd]), hd]
      simp [blockInside?_append_right more hb]

theorem ne_nil_of_body? {rest inside : List (Glyph α)} (h : body? rest = .ok inside) :
    rest ≠ [] := by
  rintro rfl
  simp [body?] at h

end EnumExport
