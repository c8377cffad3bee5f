import EnumExport.Proofs.Offsets.Placing
import EnumExport.Proofs.Reading.Concatenation
import EnumExport.Proofs.Reading.Spelling

namespace EnumExport

open Glyph

variable {α : Type}

structure MarkedAt (marker masked : List Char) (offset : Nat) : Prop where
  isSpelled : IsSpelled isWord marker
  isPrefix : '@' :: marker <+: masked.drop offset
  whole : ∀ c ∈ (masked.drop (offset + 1 + marker.length)).head?, isWord c = false

structure Attributed (marker text : List Char) (offset : Nat) (header : Header Nat) : Prop where
  marked : MarkedAt marker (mask false text) offset
  header_eq : header? ((placed text).drop (offset + 1 + marker.length)) = some header

def lineAt (text : List Char) (offset : Nat) : Nat := 1 + (text.take offset).count '\n'

theorem afterWord_eq_drop (gs : List (Glyph α)) :
    afterWord gs = gs.drop (leadingWord gs).length := by
  have hlength : (leadingWord gs).length = (gs.takeWhile Glyph.isWord).length := List.length_map ..
  calc
    afterWord gs = (gs.takeWhile Glyph.isWord ++ afterWord gs).drop
        (gs.takeWhile Glyph.isWord).length := List.drop_left.symm
    _ = gs.drop (leadingWord gs).length := by
      rw [afterWord, List.takeWhile_append_dropWhile, hlength]

theorem leadingWord_eq_takeWhile (gs : List (Glyph α)) :
    leadingWord gs = (text gs).takeWhile EnumExport.isWord := List.takeWhile_map.symm

theorem drop_leadingWord_eq (gs : List (Glyph α)) :
    (text gs).drop (leadingWord gs).length = text (afterWord gs) := by
  rw [afterWord_eq_drop, text, text, List.map_drop]

theorem spells_iff {marker : List Char} {gs : List (Glyph α)} :
    spells marker gs = true ↔
      IsSpelled isWord marker ∧ marker <+: text gs ∧
        ∀ c ∈ ((text gs).drop marker.length).head?, isWord c = false := by
  have hspells : spells marker gs = true ↔ startsName gs = true ∧ leadingWord gs = marker := by
    rw [spells, Bool.and_eq_true, beq_iff_eq]
  rw [hspells]
  constructor
  · rintro ⟨hstart, rfl⟩
    cases gs with
    | nil => simp [startsName] at hstart
    | cons g gs =>
      have hg : Glyph.isWord g = true := isWord_of_isNameStart hstart
      have hword : leadingWord (g :: gs) = g.shown :: leadingWord gs := by
        simp [leadingWord, text, hg]
      refine ⟨⟨g.shown, leadingWord gs, hword, hstart, ?_⟩, ?_, ?_⟩
      · intro c hc
        rw [leadingWord_eq_takeWhile] at hc
        exact List.mem_takeWhile_imp hc
      · rw [leadingWord_eq_takeWhile]
        exact List.takeWhile_prefix _
      · rw [drop_leadingWord_eq]
        exact fun c => isWord_of_head?_afterWord
  · rintro ⟨⟨first, rest, rfl, hfirst, hrest⟩, ⟨tail, htail⟩, hwhole⟩
    constructor
    · cases gs with
      | nil => simp [text] at htail
      | cons g gs =>
        obtain ⟨rfl, -⟩ := List.cons.inj htail
        exact hfirst
    · rw [← htail, List.drop_left] at hwhole
      rw [leadingWord_eq_takeWhile, ← htail]
      exact takeWhile_append_of_stop
        (List.forall_mem_cons.mpr ⟨isWord_of_isNameStart hfirst, hrest⟩) hwhole

def occurrence? (marker : List Char) (line : Nat) (gs : List (Glyph α)) (i : Nat) :
    Option (Nat × List (Glyph α)) :=
  match gs.drop i with
  | [] => none
  | g :: rest =>
    if g.shown = '@' ∧ spells marker rest then some (line + lineEnds (gs.take i), afterWord rest)
    else none

theorem occurrence?_cons_succ (marker : List Char) (line : Nat) (g : Glyph α) (gs : List (Glyph α))
    (i : Nat) :
    occurrence? marker line (g :: gs) (i + 1) = occurrence? marker (line + lineEnds [g]) gs i := by
  have hends : lineEnds ([g] ++ gs.take i) = lineEnds [g] + lineEnds (gs.take i) :=
    List.countP_append
  rw [List.singleton_append] at hends
  rw [occurrence?, occurrence?, List.drop_succ_cons, List.take_succ_cons, hends, Nat.add_assoc]

theorem occurrences_eq_filterMap (marker : List Char) (line : Nat) (gs : List (Glyph α)) :
    occurrences marker line gs =
      (List.range gs.length).filterMap (occurrence? marker line gs) := by
  induction gs generalizing line with
  | nil => rfl
  | cons g gs ih =>
    have hrest (n : Nat) (hn : n = line + lineEnds [g]) :
        occurrences marker n gs = ((List.range gs.length).map Nat.succ).filterMap
          (occurrence? marker line (g :: gs)) := by
      rw [ih, List.filterMap_map, hn]
      apply List.filterMap_congr
      intro i _
      exact (occurrence?_cons_succ marker line g gs i).symm
    rw [List.length_cons, List.range_succ_eq_map, List.filterMap_cons, occurrences]
    by_cases hline : g.shown = '\n'
    · have hnot : occurrence? marker line (g :: gs) 0 = none := by
        simp [occurrence?, hline]
      rw [if_pos hline, hnot, hrest (line + 1) (by simp [lineEnds, hline])]
    · have hends : line = line + lineEnds [g] := by simp [lineEnds, hline]
      rw [if_neg hline]
      by_cases hat : g.shown = '@' ∧ spells marker gs
      · have hfound : occurrence? marker line (g :: gs) 0 = some (line, afterWord gs) := by
          simp [occurrence?, hat, lineEnds]
        rw [if_pos hat, hfound, hrest line hends]
      · have hnot : occurrence? marker line (g :: gs) 0 = none := by
          simp [occurrence?, hat]
        rw [if_neg hat, hnot, hrest line hends]

theorem lineEnds_take_placed (text : List Char) (i : Nat) :
    lineEnds ((placed text).take i) = (text.take i).count '\n' := by
  have hcount : lineEnds ((placed text).take i) =
      (((placed text).take i).map Glyph.shown).count '\n' := by
    rw [List.count, List.countP_map]
    rfl
  have hshown : ((placed text).take i).map Glyph.shown = (mask false text).take i := by
    rw [List.map_take, ← Glyph.text, text_placed]
  rw [hcount, hshown]
  exact count_lineEnd_of_fades (List.forall₂_take i (fades_mask false text))

theorem drop_mask_eq_text (text : List Char) (n : Nat) :
    (mask false text).drop n = Glyph.text ((placed text).drop n) := by
  rw [← text_placed, Glyph.text, Glyph.text, List.map_drop]

theorem drop_placed_eq {text : List Char} {offset : Nat} {g : Glyph Nat} {rest : List (Glyph Nat)}
    (h : (placed text).drop offset = g :: rest) (n : Nat) :
    (placed text).drop (offset + 1 + n) = rest.drop n := by
  rw [← List.drop_drop, ← List.tail_drop, h, List.tail_cons]

theorem markedAt_iff_spells {marker text : List Char} {offset : Nat} {g : Glyph Nat}
    {rest : List (Glyph Nat)} (h : (placed text).drop offset = g :: rest) :
    MarkedAt marker (mask false text) offset ↔ g.shown = '@' ∧ spells marker rest = true := by
  rw [spells_iff]
  have hstarts : '@' :: marker <+: (mask false text).drop offset ↔
      g.shown = '@' ∧ marker <+: Glyph.text rest := by
    rw [drop_mask_eq_text, h, Glyph.text, List.map_cons, List.cons_prefix_cons, eq_comm, Glyph.text]
  have hwhole : (mask false text).drop (offset + 1 + marker.length) =
      (Glyph.text rest).drop marker.length := by
    rw [drop_mask_eq_text, drop_placed_eq h, Glyph.text, Glyph.text, List.map_drop]
  constructor
  · rintro ⟨hspelled, hstands, hstop⟩
    obtain ⟨hat, hmarker⟩ := hstarts.mp hstands
    exact ⟨hat, hspelled, hmarker, hwhole ▸ hstop⟩
  · rintro ⟨hat, hspelled, hmarker, hstop⟩
    exact ⟨hspelled, hstarts.mpr ⟨hat, hmarker⟩, hwhole ▸ hstop⟩

theorem occurrence?_placed_iff {marker text : List Char} {offset : Nat}
    {found : Nat × List (Glyph Nat)} :
    occurrence? marker 1 (placed text) offset = some found ↔
      MarkedAt marker (mask false text) offset ∧
        found = (lineAt text offset, (placed text).drop (offset + 1 + marker.length)) := by
  rw [occurrence?]
  cases hdrop : (placed text).drop offset with
  | nil =>
    constructor
    · intro h
      cases h
    · rintro ⟨⟨-, hstands, -⟩, -⟩
      rw [drop_mask_eq_text, hdrop] at hstands
      simp [Glyph.text] at hstands
  | cons g rest =>
    rw [markedAt_iff_spells hdrop, drop_placed_eq hdrop, lineEnds_take_placed, ← lineAt]
    simp only
    split
    · rename_i hfound
      have hword : leadingWord rest = marker := by
        have hspells := hfound.2
        rw [spells, Bool.and_eq_true, beq_iff_eq] at hspells
        exact hspells.2
      rw [afterWord_eq_drop, hword, Option.some_inj, eq_comm]
      exact ⟨fun h => ⟨hfound, h⟩, And.right⟩
    · rename_i hnot
      constructor
      · intro h
        cases h
      · exact fun h => absurd h.1 hnot

def headerAt? (marker text : List Char) (offset : Nat) : Option (Nat × Header Nat) :=
  (occurrence? marker 1 (placed text) offset).bind fun (line, rest) =>
    (header? rest).map (line, ·)

theorem headers_placed (marker text : List Char) :
    headers marker (placed text) = (List.range text.length).filterMap (headerAt? marker text) := by
  rw [headers, occurrences_eq_filterMap, List.filterMap_filterMap, length_placed]
  rfl

theorem headerAt?_eq_some_iff {marker text : List Char} {offset : Nat} {found : Nat × Header Nat} :
    headerAt? marker text offset = some found ↔
      found.1 = lineAt text offset ∧ Attributed marker text offset found.2 := by
  rw [headerAt?, Option.bind_eq_some_iff]
  constructor
  · rintro ⟨⟨line, rest⟩, hoccurrence, h⟩
    obtain ⟨hmarked, he⟩ := occurrence?_placed_iff.mp hoccurrence
    obtain ⟨rfl, rfl⟩ := Prod.mk.inj he
    obtain ⟨header, hheader, rfl⟩ := Option.map_eq_some_iff.mp h
    exact ⟨rfl, hmarked, hheader⟩
  · rintro ⟨hline, hmarked, hheader⟩
    refine ⟨_, occurrence?_placed_iff.mpr ⟨hmarked, rfl⟩, ?_⟩
    simp only [hheader, Option.map_some, ← hline]

theorem Attributed.unique {marker text : List Char} {offset : Nat} {header header' : Header Nat}
    (h : Attributed marker text offset header) (h' : Attributed marker text offset header') :
    header = header' := Option.some.inj (h.header_eq.symm.trans h'.header_eq)

theorem Attributed.lt_length {marker text : List Char} {offset : Nat} {header : Header Nat}
    (h : Attributed marker text offset header) : offset < text.length := by
  by_contra hlt
  have hnil : (mask false text).drop offset = [] := by
    rw [List.drop_eq_nil_iff, length_mask]
    omega
  have hstands := h.marked.isPrefix
  rw [hnil] at hstands
  simp at hstands

structure AreAttributed (marker text : List Char) (offsets : List Nat) : Prop where
  increasing : offsets.Pairwise (· < ·)
  mem_iff : ∀ offset, offset ∈ offsets ↔ ∃ header, Attributed marker text offset header

theorem exists_offsets_of_headers (marker text : List Char) :
    ∃ offsets, AreAttributed marker text offsets ∧
      List.Forall₂ (fun offset found => found.1 = lineAt text offset ∧
        Attributed marker text offset found.2) offsets (headers marker (placed text)) := by
  refine ⟨(List.range text.length).filter fun offset => (headerAt? marker text offset).isSome,
    ⟨?_, ?_⟩, ?_⟩
  · exact List.pairwise_lt_range.filter _
  · intro offset
    rw [List.mem_filter, List.mem_range, Option.isSome_iff_exists]
    constructor
    · rintro ⟨-, found, hfound⟩
      exact ⟨found.2, (headerAt?_eq_some_iff.mp hfound).2⟩
    · rintro ⟨header, hheader⟩
      exact ⟨hheader.lt_length, (lineAt text offset, header),
        headerAt?_eq_some_iff.mpr ⟨rfl, hheader⟩⟩
  · rw [headers_placed]
    have hfound := forall₂_filter_filterMap (headerAt? marker text) (List.range text.length)
    exact hfound.imp fun _ _ => headerAt?_eq_some_iff.mp

end EnumExport
