import EnumExport.Proofs.Reading.Blocks
import EnumExport.Proofs.Reading.Suffixes
import EnumExport.Proofs.Reading.Views

namespace EnumExport

open Glyph

variable {α β : Type}

section Stretches

theorem Division.isInfix_of_mem_partsFrom {division : Division} {depth : Nat}
    {before gs part : List (Glyph α)} (h : part ∈ division.partsFrom depth before gs) :
    part <:+: before.reverse ++ gs := by
  induction gs generalizing depth before with
  | nil =>
    rw [partsFrom, List.mem_singleton] at h
    rw [h]
    exact (List.prefix_append _ _).isInfix
  | cons g gs ih =>
    have hmore {depth : Nat} (h : part ∈ division.partsFrom depth (g :: before) gs) :
        part <:+: before.reverse ++ g :: gs := by simpa using ih h
    rw [partsFrom] at h
    split at h
    · exact hmore h
    · split at h
      · exact hmore h
      · split at h
        · rcases List.mem_cons.mp h with rfl | h
          · exact (List.prefix_append _ _).isInfix
          · have hrest : gs <:+ before.reverse ++ g :: gs :=
              (List.suffix_cons g gs).trans (List.suffix_append _ _)
            exact (ih h).trans hrest.isInfix
        · exact hmore h

theorem Division.isInfix_of_mem_parts {division : Division} {gs part : List (Glyph α)}
    (h : part ∈ division.parts gs) : part <:+: gs := isInfix_of_mem_partsFrom h

theorem afterCaseWord?_suffix {gs rest : List (Glyph α)} (h : afterCaseWord? gs = some rest) :
    rest <:+ gs := by
  have hword := afterWord_suffix gs
  simp only [afterCaseWord?] at h
  split at h
  · exact Option.some.inj h ▸ hword
  · split at h
    · obtain ⟨tail, htail, h⟩ := Option.bind_eq_some_iff.mp h
      split at h
      · exact Option.some.inj h ▸
          (afterWord_suffix tail).trans ((afterBlanks?_suffix htail).trans hword)
      · simp at h
    · simp at h

theorem afterCase?_suffix {gs rest : List (Glyph α)} (h : afterCase? gs = some rest) :
    rest <:+ gs := by
  induction gs using afterCase?.induct with
  | case1 gs hgs => simp [afterCase?_eq_none hgs] at h
  | case2 gs g tail hgs hat hname after ih =>
    rw [afterCase?_of_skipBlanks hgs, if_pos hat, if_pos hname] at h
    have htail : tail <:+ gs := by
      apply tail_suffix_of_suffix (g := g)
      rw [← hgs]
      exact skipBlanks_suffix gs
    have hafter : after <:+ gs := (afterWord_suffix tail).trans htail
    rcases Option.or_eq_some_iff.mp h with h | ⟨-, h⟩
    · exact (ih h).trans ((afterOptionalGroup_suffix after).trans hafter)
    · split at h
      · exact Option.some.inj h ▸ hafter
      · simp at h
  | case3 gs g tail hgs hat hname =>
    rw [afterCase?_of_skipBlanks hgs, if_pos hat, if_neg hname] at h
    simp at h
  | case4 gs g tail hgs hat =>
    rw [afterCase?_of_skipBlanks hgs, if_neg hat, ← hgs] at h
    exact (afterCaseWord?_suffix h).trans (skipBlanks_suffix gs)

theorem elementEnd?_suffix {gs : List (Glyph α)} {rawValue : Option (List (Glyph α))}
    (h : elementEnd? gs = some rawValue) : ∀ raw ∈ rawValue, raw <:+ gs := by
  have hskip := skipBlanks_suffix gs
  unfold elementEnd? at h
  split at h
  · obtain rfl := Option.some.inj h
    simp
  · rename_i g rest hg
    split at h
    · obtain rfl := Option.some.inj h
      rw [hg] at hskip
      rintro raw ⟨⟩
      exact tail_suffix_of_suffix hskip
    · simp at h

theorem associatedEnd?_suffix {gs : List (Glyph α)} {rawValue : Option (List (Glyph α))}
    (h : associatedEnd? gs = some rawValue) : ∀ raw ∈ rawValue, raw <:+ gs := by
  induction gs with
  | nil => simp [associatedEnd?] at h
  | cons g gs ih =>
    have hcons : gs <:+ g :: gs := List.suffix_cons g gs
    rw [associatedEnd?] at h
    rcases Option.or_eq_some_iff.mp h with h | ⟨-, h⟩
    · exact fun raw hraw => (ih h raw hraw).trans hcons
    · split at h
      · exact fun raw hraw => (elementEnd?_suffix h raw hraw).trans hcons
      · simp at h

theorem spanOpened?_append_eq {more : Glyph α → Bool} {opening gs name rest : List (Glyph α)}
    (h : spanOpened? more opening gs = some (name, rest)) : name ++ rest = opening ++ gs := by
  have hsplit := List.takeWhile_append_dropWhile (p := more) (l := gs)
  unfold spanOpened? at h
  split at h
  · split at h
    · rename_i hd
      obtain ⟨rfl, rfl⟩ := Prod.mk.inj (Option.some.inj h)
      rw [hd] at hsplit
      rw [List.append_assoc, hsplit]
    · rename_i g after hd
      rw [hd] at hsplit
      split at h
      · obtain ⟨rfl, rfl⟩ := Prod.mk.inj (Option.some.inj h)
        rw [List.append_assoc, List.append_assoc, List.singleton_append, hsplit]
      · obtain ⟨rfl, rfl⟩ := Prod.mk.inj (Option.some.inj h)
        rw [List.append_assoc, hsplit]
  · simp at h

theorem spanName?_append_eq {more : Glyph α → Bool} {gs name rest : List (Glyph α)}
    (h : spanName? more gs = some (name, rest)) : name ++ rest = gs := by
  cases gs with
  | nil => simp [spanName?, startsName] at h
  | cons g gs =>
    rw [spanName?_cons] at h
    split at h
    · exact spanOpened?_append_eq h
    · exact spanOpened?_append_eq h

def afterName? (gs : List (Glyph α)) : Option (Option (List (Glyph α))) :=
  match skipBlanks gs with
  | [] => some none
  | g :: rest => if g.shown = '(' then associatedEnd? rest else elementEnd? (g :: rest)

theorem afterName?_suffix {gs : List (Glyph α)} {rawValue : Option (List (Glyph α))}
    (h : afterName? gs = some rawValue) : ∀ raw ∈ rawValue, raw <:+ gs := by
  have hskip := skipBlanks_suffix gs
  unfold afterName? at h
  split at h
  · obtain rfl := Option.some.inj h
    simp
  · rename_i g rest hg
    rw [hg] at hskip
    split at h
    · exact fun raw hraw =>
        (associatedEnd?_suffix h raw hraw).trans (tail_suffix_of_suffix hskip)
    · exact fun raw hraw => (elementEnd?_suffix h raw hraw).trans hskip

theorem element?_eq (gs : List (Glyph α)) :
    element? gs = (spanName? Glyph.isWord (skipBlanks gs)).bind fun (name, rest) =>
      (afterName? rest).map (Element.mk name) := by
  rw [element?]
  cases spanName? Glyph.isWord (skipBlanks gs) with
  | none => rfl
  | some span =>
    simp only [Option.bind_eq_bind, Option.bind_some, afterName?]
    cases skipBlanks span.2 with
    | nil => rfl
    | cons g rest =>
      simp only
      split
      · cases associatedEnd? rest <;> rfl
      · cases elementEnd? (g :: rest) <;> rfl

theorem element?_eq_some_iff {gs : List (Glyph α)} {element : Element α} :
    element? gs = some element ↔
      ∃ rest, spanName? Glyph.isWord (skipBlanks gs) = some (element.name, rest) ∧
        afterName? rest = some element.rawValue := by
  rw [element?_eq, Option.bind_eq_some_iff]
  constructor
  · rintro ⟨⟨name, rest⟩, hspan, h⟩
    obtain ⟨rawValue, hraw, rfl⟩ := Option.map_eq_some_iff.mp h
    exact ⟨rest, hspan, hraw⟩
  · rintro ⟨rest, hspan, hraw⟩
    exact ⟨(element.name, rest), hspan, Option.map_eq_some_iff.mpr ⟨_, hraw, rfl⟩⟩

theorem element?_isInfix {gs : List (Glyph α)} {element : Element α}
    (h : element? gs = some element) :
    element.name <:+: gs ∧ ∀ raw ∈ element.rawValue, raw <:+: gs := by
  obtain ⟨rest, hspan, hraw⟩ := element?_eq_some_iff.mp h
  have hskip := skipBlanks_suffix gs
  rw [← spanName?_append_eq hspan] at hskip
  have hrest : rest <:+ gs := (List.suffix_append _ _).trans hskip
  refine ⟨(List.prefix_append _ _).isInfix.trans hskip.isInfix, ?_⟩
  exact fun raw hmem => ((afterName?_suffix hraw raw hmem).trans hrest).isInfix

theorem exists_element?_of_mem_caseElements {inside : List (Glyph α)} {element : Element α}
    (h : element ∈ caseElements inside) :
    ∃ part, part <:+: flatten inside ∧ element? part = some element := by
  obtain ⟨clause, hclause, hmem⟩ := List.mem_flatMap.mp h
  obtain ⟨statement, hstatement, hcase⟩ := List.mem_filterMap.mp hclause
  obtain ⟨part, hpart, helement⟩ := List.mem_filterMap.mp hmem
  refine ⟨part, ?_, helement⟩
  exact (Division.isInfix_of_mem_parts hpart).trans
    ((afterCase?_suffix hcase).isInfix.trans (Division.isInfix_of_mem_parts hstatement))

theorem isInfix_of_mem_caseElements {inside : List (Glyph α)} {element : Element α}
    (h : element ∈ caseElements inside) :
    element.name <:+: flatten inside ∧ ∀ raw ∈ element.rawValue, raw <:+: flatten inside := by
  obtain ⟨part, hpart, helement⟩ := exists_element?_of_mem_caseElements h
  obtain ⟨hname, hraw⟩ := element?_isInfix helement
  exact ⟨hname.trans hpart, fun raw hmem => (hraw raw hmem).trans hpart⟩

end Stretches

section Views

variable (f : α → β) (gs : List (Glyph α))

theorem flattenAt_map (depth : Nat) :
    flattenAt depth (gs.map (Glyph.map f)) = (flattenAt depth gs).map (Glyph.map f) := by
  induction gs generalizing depth with
  | nil => rfl
  | cons g gs ih =>
    rw [List.map_cons, flattenAt_cons, flattenAt_cons, shown_map, ih]
    rfl

theorem startsWithJoint_map : startsWithJoint (gs.map (Glyph.map f)) = startsWithJoint gs := by
  rw [startsWithJoint, startsWithJoint, skipBlanks_map]
  cases skipBlanks gs <;> rfl

theorem Division.partsFrom_map (division : Division) (depth : Nat) (before : List (Glyph α)) :
    division.partsFrom depth (before.map (Glyph.map f)) (gs.map (Glyph.map f)) =
      (division.partsFrom depth before gs).map (List.map (Glyph.map f)) := by
  induction gs generalizing depth before with
  | nil => simp [partsFrom]
  | cons g gs ih =>
    have hmore (depth : Nat) := ih depth (g :: before)
    rw [List.map_cons] at hmore
    have hseparates : division.separatesAt (before.map (Glyph.map f)) (g.map f)
        (gs.map (Glyph.map f)) = division.separatesAt before g gs := by
      simp only [separatesAt, continues, shown_map, startsWithJoint_map]
    rw [List.map_cons, partsFrom, partsFrom, hseparates, shown_map, hmore, hmore, hmore]
    split
    · rfl
    · split
      · rfl
      · split
        · have hnext := ih 0 []
          rw [List.map_nil] at hnext
          rw [hnext, List.map_cons, List.map_reverse]
        · rfl

theorem Division.parts_map (division : Division) :
    division.parts (gs.map (Glyph.map f)) = (division.parts gs).map (List.map (Glyph.map f)) :=
  division.partsFrom_map f gs 0 []

theorem afterCaseWord?_map :
    afterCaseWord? (gs.map (Glyph.map f)) =
      (afterCaseWord? gs).map (List.map (Glyph.map f)) := by
  simp only [afterCaseWord?, leadingWord_map, afterWord_map, afterBlanks?_map]
  split
  · rfl
  · split
    · cases Glyph.afterBlanks? (afterWord gs) with
      | none => rfl
      | some rest =>
        simp only [Option.map_some, Option.bind_eq_bind, Option.bind_some, leadingWord_map,
          afterWord_map]
        split <;> rfl
    · rfl

theorem afterCase?_map :
    afterCase? (gs.map (Glyph.map f)) = (afterCase? gs).map (List.map (Glyph.map f)) := by
  have hcons {gs rest : List (Glyph α)} {g : Glyph α} (h : skipBlanks gs = g :: rest) :
      skipBlanks (gs.map (Glyph.map f)) = g.map f :: rest.map (Glyph.map f) := by
    rw [skipBlanks_map, h, List.map_cons]
  induction gs using afterCase?.induct with
  | case1 gs hgs =>
    rw [afterCase?_eq_none hgs, afterCase?_eq_none (by rw [skipBlanks_map, hgs]; rfl)]
    rfl
  | case2 gs g rest hgs hat hname after ih =>
    have hat' : (g.map f).shown = '@' := hat
    have hname' : startsName (rest.map (Glyph.map f)) = true := by rwa [startsName_map]
    rw [afterCase?_of_skipBlanks hgs, afterCase?_of_skipBlanks (hcons hgs), if_pos hat,
      if_pos hat', if_pos hname, if_pos hname', afterWord_map, leadingWord_map,
      afterOptionalGroup_map, ih]
    cases afterCase? (afterOptionalGroup after) with
    | none =>
      simp only [Option.map_none, Option.none_or]
      split <;> rfl
    | some rest => rfl
  | case3 gs g rest hgs hat hname =>
    have hat' : (g.map f).shown = '@' := hat
    have hname' : ¬ startsName (rest.map (Glyph.map f)) = true := by rwa [startsName_map]
    rw [afterCase?_of_skipBlanks hgs, afterCase?_of_skipBlanks (hcons hgs), if_pos hat,
      if_pos hat', if_neg hname, if_neg hname']
    rfl
  | case4 gs g rest hgs hat =>
    have hat' : ¬ (g.map f).shown = '@' := hat
    rw [afterCase?_of_skipBlanks hgs, afterCase?_of_skipBlanks (hcons hgs), if_neg hat,
      if_neg hat', ← List.map_cons, afterCaseWord?_map]

theorem elementEnd?_map :
    elementEnd? (gs.map (Glyph.map f)) =
      (elementEnd? gs).map (Option.map (List.map (Glyph.map f))) := by
  rw [elementEnd?, elementEnd?, skipBlanks_map]
  cases skipBlanks gs with
  | nil => rfl
  | cons g rest =>
    by_cases hg : g.shown = '=' <;> simp [hg]

theorem associatedEnd?_map :
    associatedEnd? (gs.map (Glyph.map f)) =
      (associatedEnd? gs).map (Option.map (List.map (Glyph.map f))) := by
  induction gs with
  | nil => rfl
  | cons g gs ih =>
    rw [List.map_cons, associatedEnd?, associatedEnd?, ih, elementEnd?_map, shown_map]
    cases associatedEnd? gs with
    | none =>
      simp only [Option.map_none, Option.none_or]
      split <;> rfl
    | some rawValue => rfl

theorem afterName?_map :
    afterName? (gs.map (Glyph.map f)) =
      (afterName? gs).map (Option.map (List.map (Glyph.map f))) := by
  rw [afterName?, afterName?, skipBlanks_map]
  cases skipBlanks gs with
  | nil => rfl
  | cons g rest =>
    simp only [List.map_cons, shown_map, associatedEnd?_map]
    by_cases hg : g.shown = '('
    · rw [if_pos hg, if_pos hg]
    · rw [if_neg hg, if_neg hg, ← List.map_cons, elementEnd?_map]

def Element.map (element : Element α) : Element β :=
  ⟨element.name.map (Glyph.map f), element.rawValue.map (List.map (Glyph.map f))⟩

theorem element?_map :
    element? (gs.map (Glyph.map f)) = (element? gs).map (Element.map f) := by
  have hspan : spanName? Glyph.isWord ((skipBlanks gs).map (Glyph.map f)) =
      (spanName? Glyph.isWord (skipBlanks gs)).map
        (Prod.map (List.map (Glyph.map f)) (List.map (Glyph.map f))) :=
    spanName?_map f (skipBlanks gs) EnumExport.isWord
  rw [element?_eq, element?_eq, skipBlanks_map, hspan]
  cases spanName? Glyph.isWord (skipBlanks gs) with
  | none => rfl
  | some span =>
    simp only [Option.map_some, Option.bind_some, Prod.map_fst, Prod.map_snd, afterName?_map]
    cases afterName? span.2 <;> rfl

theorem caseElements_map :
    caseElements (gs.map (Glyph.map f)) = (caseElements gs).map (Element.map f) := by
  have hclauses : (statements (flatten (gs.map (Glyph.map f)))).filterMap afterCase? =
      ((statements (flatten gs)).filterMap afterCase?).map (List.map (Glyph.map f)) := by
    rw [flatten, flattenAt_map, statements, Division.parts_map, List.filterMap_map,
      List.map_filterMap]
    exact List.filterMap_congr fun statement _ => afterCase?_map f statement
  have helements (clause : List (Glyph α)) :
      (elements (clause.map (Glyph.map f))).filterMap element? =
        ((elements clause).filterMap element?).map (Element.map f) := by
    rw [elements, Division.parts_map, List.filterMap_map, List.map_filterMap]
    exact List.filterMap_congr fun part _ => element?_map f part
  rw [caseElements, hclauses, List.flatMap_map, caseElements, List.map_flatMap]
  simp only [helements]

end Views

end EnumExport
