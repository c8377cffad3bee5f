import EnumExport.Proofs.Literals.Verbatim
import EnumExport.Proofs.Offsets.Rejection

namespace EnumExport

open Glyph

variable {marker text : List Char} {file : Option (List Char)}

def StandsBehind (text : List Char) (offset : Nat) (word : List Char) : Prop :=
  ∃ place, offset < place ∧ StandsAt text place word

/-- Whether a declaration was read from the text behind this place, word for word. -/
structure ReadVerbatim (marker text : List Char) (offset : Nat) (declaration : Declaration) :
    Prop where
  marker : StandsAt text offset ('@' :: marker)
  kind : declaration.kind ∈ DeclarationKind.recognised
  name : IsSpelled isDotted declaration.name ∧ StandsBehind text offset declaration.name
  caseNames : ∀ c ∈ declaration.cases, IsSpelled isWord c.name ∧ StandsBehind text offset c.name
  rawValues : ∀ c ∈ declaration.cases, ∀ value ∈ c.rawValue, value.IsVerbatim (mask true text)

theorem MarkedAt.standsAt {offset : Nat} (h : MarkedAt marker (mask false text) offset) :
    StandsAt text offset ('@' :: marker) := by
  apply standsAt_of_mask h.isPrefix
  intro c hc
  rcases List.mem_cons.mp hc with rfl | hc
  · decide
  · exact h.isSpelled.dotted.plain c hc

theorem standsBehind_of_isInfix {run : List (Glyph Nat)} {offset place : Nat}
    (hwithin : run <:+: (placed text).drop place) (hplace : offset < place)
    (hspelled : IsSpelled isDotted (Glyph.text run)) :
    StandsBehind text offset (Glyph.text run) := by
  obtain ⟨front, back, hsplit⟩ := hwithin
  have hplaced : placed text = ((placed text).take place ++ front) ++ (run ++ back) := by
    rw [List.append_assoc, ← List.append_assoc front, hsplit, List.take_append_drop]
  have hne : run ≠ [] := by
    rintro rfl
    exact hspelled.ne_nil rfl
  have hbound : place < (placed text).length := by
    by_contra hle
    rw [List.drop_eq_nil_of_le (Nat.not_lt.mp hle)] at hsplit
    exact hne (List.append_eq_nil_iff.mp (List.append_eq_nil_iff.mp hsplit).1).2
  refine ⟨_, ?_, standsAt_of_placed_eq hplaced hspelled.plain_glyphs⟩
  rw [List.length_append, List.length_take]
  omega

theorem map_behind_placed (text : List Char) :
    ((placed text).map Glyph.source).map (behind text) = mask true text := by
  have hlength : (mask true text).length ≤ (mask false text).length := by
    rw [length_mask, length_mask]
  have hsource : ((placed text).map Glyph.source).map (behind text) =
      (glyphs text).map Glyph.source := by
    rw [glyphs_eq_map_placed, List.map_map, List.map_map]
    rfl
  rw [hsource, glyphs, ← List.map_uncurry_zip_eq_zipWith, List.map_map]
  exact List.map_snd_zip hlength

theorem ReadAt.inside_isInfix {offset : Nat} {header : Header Nat} {declaration : Declaration}
    (h : ReadAt marker text file offset header declaration) {inside : List (Glyph Nat)}
    (hbody : body? header.rest = .ok inside) :
    inside <:+: (placed text).drop (offset + 1 + marker.length) :=
  (isInfix_of_body? hbody).trans (header?_suffix h.attributed.header_eq).isInfix

theorem rawValue_isVerbatim {inside : List (Glyph Nat)} (hinside : inside <:+: placed text)
    {element : Element Nat} (helement : element ∈ caseElements inside) {found : EnumCase}
    (hread : readElement (element.map (behind text)) = .ok found) :
    ∀ value ∈ found.rawValue, value.IsVerbatim (mask true text) := by
  intro value hvalue
  obtain ⟨raw', hraw', hexpression⟩ := (exists_read_of_readElement hread).2 value hvalue
  obtain ⟨raw, hraw, rfl⟩ := Option.map_eq_some_iff.mp hraw'
  have hwithin := (isInfix_of_mem_caseElements helement).2 raw hraw
  apply (Expression.read_isVerbatim hexpression).mono
  have hsource : (raw.map (Glyph.map (behind text))).map Glyph.source =
      (raw.map Glyph.source).map (behind text) := by
    rw [List.map_map, List.map_map]
    rfl
  rw [hsource, ← map_behind_placed]
  have hflat := hwithin.map Glyph.source
  rw [flatten, map_source_flattenAt] at hflat
  exact (hflat.trans (hinside.map Glyph.source)).map (behind text)

theorem ReadAt.readVerbatim {offset : Nat} {header : Header Nat} {declaration : Declaration}
    (h : ReadAt marker text file offset header declaration) :
    ReadVerbatim marker text offset declaration := by
  have hfound := header?_isFoundIn h.attributed.header_eq
  have hplace : offset < offset + 1 + marker.length := by omega
  obtain ⟨inside, hbody, hcases⟩ := h.body
  have hinside := h.inside_isInfix hbody
  constructor
  · exact h.attributed.marked.standsAt
  · rw [h.kind]
    exact hfound.kind
  · rw [h.name]
    refine ⟨hfound.isSpelled, standsBehind_of_isInfix ?_ hplace hfound.isSpelled⟩
    exact hfound.unquoted_isInfix.trans
      ((List.prefix_append _ _).isInfix.trans hfound.nameAndRest.isInfix)
  · intro c hc
    obtain ⟨element, helement, hread⟩ := exists_mem_of_mem_mapM hcases hc
    have hname := (exists_read_of_readElement hread).1
    rw [Element.map, unquotedText_map] at hname
    obtain ⟨hwithin, hspelled⟩ := unquoted_of_mem_caseElements helement
    rw [hname]
    refine ⟨hspelled, standsBehind_of_isInfix ?_ hplace hspelled.dotted⟩
    obtain ⟨front, back, rfl, -⟩ := exists_of_isInfix_flatten hwithin
      (hspelled.ne_nil ∘ congrArg Glyph.text) fun g hg =>
        (hspelled.dotted.plain_glyphs g hg).1
    have hrun : unquoted element.name <:+: front ++ (unquoted element.name ++ back) :=
      ⟨front, back, List.append_assoc ..⟩
    exact hrun.trans hinside
  · intro c hc
    obtain ⟨element, helement, hread⟩ := exists_mem_of_mem_mapM hcases hc
    exact rawValue_isVerbatim (hinside.trans (List.drop_suffix _ _).isInfix) helement hread

theorem read_verbatim {declarations : List Declaration}
    (h : readSource marker file text = .ok declarations) :
    ∃ offsets, offsets.Pairwise (· < ·) ∧
      List.Forall₂ (ReadVerbatim marker text) offsets declarations := by
  obtain ⟨offsets, hoffsets, hread⟩ := exists_offsets_of_readSource h
  refine ⟨offsets, hoffsets.increasing, hread.imp ?_⟩
  rintro offset declaration ⟨header, hheader⟩
  exact hheader.readVerbatim

theorem read_verbatim_sample :
    let text := "/* @A enum C \x7b\x7d */ @A\nstruct `F.G` \x7b case a = \"x\", b = - y \x7d".toList
    let found : Declaration :=
      ⟨.struct, "F.G".toList, [⟨"a".toList, some (.unsupported "\"x\"".toList)⟩,
        ⟨"b".toList, some (.unsupported "- y".toList)⟩], none, some 1⟩
    readSource "A".toList none text = .ok [found] ∧
      ∃ offset, ReadVerbatim "A".toList text offset found := by
  intro text found
  have hread : readSource "A".toList none text = .ok [found] := by decide +kernel
  obtain ⟨offsets, -, hverbatim⟩ := read_verbatim hread
  obtain ⟨offset, -, hfound⟩ := exists_mem_of_forall₂ hverbatim.flip (List.mem_singleton_self found)
  exact ⟨hread, offset, hfound⟩

end EnumExport
