import EnumExport.Proofs.Reading.Extension

/-!
Views: what is found in some glyphs depends on what they show. What stands behind them may be
exchanged before or after.
-/

namespace EnumExport

open Glyph

variable {α β : Type}

namespace Glyph

def map (f : α → β) (g : Glyph α) : Glyph β := ⟨g.shown, f g.source⟩

@[simp] theorem shown_map (f : α → β) (g : Glyph α) : (g.map f).shown = g.shown := rfl

@[simp] theorem source_map (f : α → β) (g : Glyph α) : (g.map f).source = f g.source := rfl

variable (f : α → β) (gs : List (Glyph α))

theorem dropWhile_map (p : Char → Bool) :
    (gs.map (map f)).dropWhile (fun g => p g.shown) =
      (gs.dropWhile fun g => p g.shown).map (map f) := List.dropWhile_map

@[simp] theorem skipBlanks_map : skipBlanks (gs.map (map f)) = (skipBlanks gs).map (map f) :=
  dropWhile_map f gs EnumExport.isBlank

@[simp] theorem afterWord_map : afterWord (gs.map (map f)) = (afterWord gs).map (map f) :=
  dropWhile_map f gs EnumExport.isWord

@[simp] theorem text_map : text (gs.map (map f)) = text gs := by
  simp [text, Function.comp_def]

@[simp] theorem leadingWord_map : leadingWord (gs.map (map f)) = leadingWord gs := by
  have htake : (gs.map (map f)).takeWhile isWord = (gs.takeWhile isWord).map (map f) :=
    List.takeWhile_map
  rw [leadingWord, htake, text_map, leadingWord]

@[simp] theorem startsName_map : startsName (gs.map (map f)) = startsName gs := by
  cases gs <;> rfl

@[simp] theorem afterBlanks?_map :
    afterBlanks? (gs.map (map f)) = (afterBlanks? gs).map (List.map (map f)) := by
  cases gs with
  | nil => rfl
  | cons g gs =>
    have hg : (g.map f).isBlank = g.isBlank := rfl
    rw [List.map_cons, afterBlanks?, afterBlanks?, hg, skipBlanks_map]
    split <;> rfl

@[simp] theorem afterGroup?_map :
    afterGroup? (gs.map (map f)) = (afterGroup? gs).map (List.map (map f)) := by
  rw [afterGroup?, afterGroup?, skipBlanks_map]
  cases skipBlanks gs with
  | nil => rfl
  | cons g rest =>
    have hdrop := dropWhile_map f rest (· != ')')
    by_cases hparen : g.shown = '('
    · cases hrest : rest.dropWhile (fun g => g.shown != ')') <;>
        simp [hparen, hdrop, hrest]
    · simp [hparen]

@[simp] theorem afterOptionalGroup_map :
    afterOptionalGroup (gs.map (map f)) = (afterOptionalGroup gs).map (map f) := by
  rw [afterOptionalGroup, afterOptionalGroup, afterGroup?_map]
  cases afterGroup? gs <;> rfl

theorem spanOpened?_map (more : Char → Bool) (opening : List (Glyph α)) :
    spanOpened? (fun g => more g.shown) (opening.map (map f)) (gs.map (map f)) =
      (spanOpened? (fun g => more g.shown) opening gs).map
        (Prod.map (List.map (map f)) (List.map (map f))) := by
  have htake : (gs.map (map f)).takeWhile (fun g => more g.shown) =
      (gs.takeWhile fun g => more g.shown).map (map f) := List.takeWhile_map
  rw [spanOpened?, spanOpened?, startsName_map, htake, dropWhile_map]
  split
  · cases gs.dropWhile fun g => more g.shown with
    | nil => simp
    | cons g rest =>
      have hg : (g.map f).isTick = g.isTick := rfl
      simp only [List.map_cons, hg]
      split <;> simp
  · rfl

theorem spanName?_map (more : Char → Bool) :
    spanName? (fun g => more g.shown) (gs.map (map f)) =
      (spanName? (fun g => more g.shown) gs).map
        (Prod.map (List.map (map f)) (List.map (map f))) := by
  cases gs with
  | nil => rfl
  | cons g gs =>
    have hg : (g.map f).isTick = g.isTick := rfl
    rw [List.map_cons, spanName?_cons, spanName?_cons, hg]
    split
    · exact spanOpened?_map f gs more [g]
    · exact spanOpened?_map f (g :: gs) more []

end Glyph

variable (f : α → β) (gs : List (Glyph α))

@[simp] theorem spells_map (marker : List Char) : spells marker (gs.map (Glyph.map f)) =
    spells marker gs := by
  rw [spells, spells, startsName_map, leadingWord_map]

theorem occurrences_map (marker : List Char) (line : Nat) :
    occurrences marker line (gs.map (Glyph.map f)) =
      (occurrences marker line gs).map fun (line, rest) => (line, rest.map (Glyph.map f)) := by
  induction gs generalizing line with
  | nil => rfl
  | cons g gs ih =>
    simp only [List.map_cons, occurrences, shown_map, spells_map, afterWord_map, ih]
    split
    · rfl
    · split <;> rfl

theorem afterSetter?_map :
    afterSetter? (gs.map (Glyph.map f)) = (afterSetter? gs).map (List.map (Glyph.map f)) := by
  rw [afterSetter?, afterSetter?, skipBlanks_map]
  cases skipBlanks gs with
  | nil => rfl
  | cons g rest =>
    simp only [List.map_cons, shown_map, skipBlanks_map, ← List.map_take, ← List.map_drop, text_map]
    by_cases hparen : g.shown = '('
    · rw [if_pos hparen, if_pos hparen]
      split
      · cases skipBlanks ((skipBlanks rest).drop 3) with
        | nil => rfl
        | cons g rest => by_cases hclose : g.shown = ')' <;> simp [hclose]
      · rfl
    · rw [if_neg hparen, if_neg hparen]
      rfl

theorem afterOptionalSetter_map :
    afterOptionalSetter (gs.map (Glyph.map f)) = (afterOptionalSetter gs).map (Glyph.map f) := by
  rw [afterOptionalSetter, afterOptionalSetter, afterSetter?_map]
  cases afterSetter? gs <;> rfl

def Header.map (header : Header α) : Header β :=
  ⟨header.kind, header.name.map (Glyph.map f), header.rest.map (Glyph.map f)⟩

theorem keywordAndName?_map :
    keywordAndName? (gs.map (Glyph.map f)) = (keywordAndName? gs).map (Header.map f) := by
  have hspan (named : List (Glyph α)) : spanName? isQualified (named.map (Glyph.map f)) =
      (spanName? isQualified named).map
        (Prod.map (List.map (Glyph.map f)) (List.map (Glyph.map f))) :=
    spanName?_map f named fun c => EnumExport.isWord c || c == '.'
  simp only [keywordAndName?, leadingWord_map, afterWord_map, afterBlanks?_map]
  cases DeclarationKind.ofKeyword? (leadingWord gs) with
  | none => rfl
  | some kind =>
    cases Glyph.afterBlanks? (afterWord gs) with
    | none => rfl
    | some named =>
      simp only [Option.bind_eq_bind, Option.bind_some, Option.map_some, hspan]
      cases spanName? isQualified named <;> rfl

theorem headerItems?_map :
    headerItems? (gs.map (Glyph.map f)) = (headerItems? gs).map (Header.map f) := by
  have hnone {gs : List (Glyph α)} (h : ∀ g rest, Glyph.afterBlanks? gs ≠ some (g :: rest)) :
      headerItems? (gs.map (Glyph.map f)) = none := by
    apply headerItems?_eq_none
    intro g rest hb
    rw [afterBlanks?_map, Option.map_eq_some_iff] at hb
    obtain ⟨found, hfound, hcons⟩ := hb
    obtain ⟨d, found, rfl, -⟩ := List.map_eq_cons_iff.mp hcons
    exact h d found hfound
  have hcons {gs : List (Glyph α)} {g : Glyph α} {rest : List (Glyph α)}
      (h : Glyph.afterBlanks? gs = some (g :: rest)) :
      Glyph.afterBlanks? (gs.map (Glyph.map f)) = some (g.map f :: rest.map (Glyph.map f)) := by
    rw [afterBlanks?_map, h]
    rfl
  induction gs using headerItems?.induct with
  | case1 gs hb =>
    have h : ∀ g rest, Glyph.afterBlanks? gs ≠ some (g :: rest) := by simp [hb]
    rw [hnone h, headerItems?_eq_none h]
    rfl
  | case2 gs hb =>
    have h : ∀ g rest, Glyph.afterBlanks? gs ≠ some (g :: rest) := by simp [hb]
    rw [hnone h, headerItems?_eq_none h]
    rfl
  | case3 gs g rest hb hat hname ih =>
    have hat' : (g.map f).shown = '@' := hat
    have hname' : startsName (rest.map (Glyph.map f)) = true := by rwa [startsName_map]
    have hqualified : (rest.map (Glyph.map f)).dropWhile isQualified =
        (rest.dropWhile isQualified).map (Glyph.map f) :=
      dropWhile_map f rest fun c => EnumExport.isWord c || c == '.'
    rw [headerItems?_of_afterBlanks? (hcons hb), headerItems?_of_afterBlanks? hb, if_pos hat,
      if_pos hat', if_pos hname, if_pos hname', hqualified, afterOptionalGroup_map, ih]
  | case4 gs g rest hb hat hname =>
    have hat' : (g.map f).shown = '@' := hat
    have hname' : ¬ startsName (rest.map (Glyph.map f)) = true := by rwa [startsName_map]
    rw [headerItems?_of_afterBlanks? (hcons hb), headerItems?_of_afterBlanks? hb, if_pos hat,
      if_pos hat', if_neg hname, if_neg hname']
    rfl
  | case5 gs g rest hb hat hword ih =>
    have hat' : ¬ (g.map f).shown = '@' := hat
    rw [headerItems?_of_afterBlanks? (hcons hb), headerItems?_of_afterBlanks? hb, if_neg hat,
      if_neg hat', ← List.map_cons, leadingWord_map, if_pos hword, if_pos hword, afterWord_map,
      afterOptionalSetter_map, ih]
  | case6 gs g rest hb hat hword =>
    have hat' : ¬ (g.map f).shown = '@' := hat
    rw [headerItems?_of_afterBlanks? (hcons hb), headerItems?_of_afterBlanks? hb, if_neg hat,
      if_neg hat', ← List.map_cons, leadingWord_map, if_neg hword, if_neg hword,
      keywordAndName?_map]

theorem header?_map : header? (gs.map (Glyph.map f)) = (header? gs).map (Header.map f) := by
  rw [header?, afterOptionalGroup_map, headerItems?_map, header?]

theorem headers_map (marker : List Char) :
    headers marker (gs.map (Glyph.map f)) =
      (headers marker gs).map fun (line, header) => (line, header.map f) := by
  rw [headers, occurrences_map, List.filterMap_map, headers, List.map_filterMap]
  apply List.filterMap_congr
  rintro ⟨line, rest⟩ -
  simp only [Function.comp_def, header?_map]
  cases header? rest <;> rfl

theorem blockInside?_map (depth : Nat) :
    blockInside? depth (gs.map (Glyph.map f)) =
      (blockInside? depth gs).map (Prod.map (List.map (Glyph.map f)) (List.map (Glyph.map f))) := by
  induction gs generalizing depth with
  | nil => rfl
  | cons g gs ih =>
    have hstep (depth : Nat) :
        (blockInside? depth (gs.map (Glyph.map f))).map (Prod.map (g.map f :: ·) id) =
          ((blockInside? depth gs).map (Prod.map (g :: ·) id)).map
            (Prod.map (List.map (Glyph.map f)) (List.map (Glyph.map f))) := by
      rw [ih]
      cases blockInside? depth gs <;> rfl
    by_cases hopen : g.shown = '{'
    · simp only [List.map_cons, blockInside?, shown_map, hopen, if_true]
      exact hstep (depth + 1)
    · by_cases hclose : g.shown = '}'
      · cases depth with
        | zero => simp [blockInside?, hclose]
        | succ depth =>
          simp only [List.map_cons, blockInside?, shown_map, hclose, if_true]
          exact hstep depth
      · simp only [List.map_cons, blockInside?, shown_map, hopen, hclose, if_false]
        exact hstep depth

theorem body?_map (rest : List (Glyph α)) :
    body? (rest.map (Glyph.map f)) = (body? rest).map (List.map (Glyph.map f)) := by
  have hdrop := dropWhile_map f rest (· != '{')
  cases hrest : rest.dropWhile (fun g => g.shown != '{') with
  | nil =>
    rw [hrest, List.map_nil] at hdrop
    simp [body?, hdrop, hrest, Except.map]
  | cons g inside =>
    rw [hrest, List.map_cons] at hdrop
    cases hinside : blockInside? 0 inside <;>
      simp [body?, hdrop, hrest, blockInside?_map, hinside, Except.map]

end EnumExport
