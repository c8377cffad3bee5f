import EnumExport.Proofs.Offsets.Levels
import EnumExport.Proofs.Offsets.Rejection

namespace EnumExport

open Glyph

variable {marker text : List Char} {file : Option (List Char)}

structure BodyPlace where
  opening : Nat
  closing : Nat
  names : List Nat
deriving DecidableEq, Repr

def nameOffset (element : Element Nat) : Nat :=
  ((unquoted element.name).map Glyph.source).headD 0

def bodyPlace? (rest : List (Glyph Nat)) : Option BodyPlace :=
  match rest.dropWhile (·.shown != '{') with
  | [] => none
  | brace :: tail =>
    (blockInside? 0 tail).map fun (inside, _) =>
      ⟨brace.source, brace.source + 1 + inside.length, (caseElements inside).map nameOffset⟩

def bodyPlaces (marker text : List Char) : List BodyPlace :=
  (headers marker (placed text)).filterMap fun (_, header) => bodyPlace? header.rest

structure NamedIn (text : List Char) (place : BodyPlace) (name : List Char) (offset : Nat) :
    Prop where
  standsAt : StandsAt text offset name
  opening_lt : place.opening < offset
  le_closing : offset + name.length ≤ place.closing
  depth : openBlocks (((mask false text).take offset).drop place.opening) = 1

structure HasBodyAt (marker text : List Char) (declaration : Declaration) (place : BodyPlace) :
    Prop where
  first : ∃ offset header front tail, Attributed marker text offset header ∧
    declaration.line = some (lineAt text offset : Int) ∧
    Glyph.text header.rest = front ++ '{' :: tail ∧ '{' ∉ front ∧
    place.opening + (tail.length + 1) = text.length
  bracesMatch : BracesMatch (mask false text) place.opening place.closing
  names : List.Forall₂ (fun c offset => NamedIn text place c.name offset) declaration.cases
    place.names

theorem IsBodied.bodyPlace?_eq {rest inside front after : List (Glyph Nat)}
    {opening closing : Glyph Nat} (h : IsBodied rest inside opening closing front after) :
    bodyPlace? rest = some ⟨opening.source, opening.source + 1 + inside.length,
      (caseElements inside).map nameOffset⟩ := by
  rw [bodyPlace?, h.dropWhile_eq]
  simp only [h.blockInside?_eq, Option.map_some]

structure LiesIn (text : List Char) (front inside after : List (Glyph Nat))
    (opening closing : Glyph Nat) : Prop where
  split : placed text = front ++ opening :: (inside ++ closing :: after)
  opens : opening.shown = '{'
  closes : closing.shown = '}'
  balanced : BraceBalanced (Glyph.text inside)

namespace LiesIn

variable {front inside after : List (Glyph Nat)} {opening closing : Glyph Nat}

theorem source_opening (h : LiesIn text front inside after opening closing) :
    opening.source = front.length := source_of_placed_eq h.split

theorem mask_eq (h : LiesIn text front inside after opening closing) :
    mask false text =
      Glyph.text front ++ '{' :: (Glyph.text inside ++ '}' :: Glyph.text after) := by
  rw [← text_placed, h.split]
  simp only [Glyph.text, List.map_append, List.map_cons, h.opens, h.closes]

theorem bracesMatch (h : LiesIn text front inside after opening closing) :
    BracesMatch (mask false text) opening.source (opening.source + 1 + inside.length) := by
  have hmatch := @bracesMatch_append (Glyph.text front) (Glyph.text inside) (Glyph.text after)
    h.balanced
  rw [← h.mask_eq] at hmatch
  simpa [Glyph.text, h.source_opening] using hmatch

theorem depth_eq {before back : List (Glyph Nat)}
    (h : LiesIn text front (before ++ back) after opening closing)
    (hlevel : levelAfter 0 before = 0) :
    openBlocks (((mask false text).take (front.length + 1 + before.length)).drop front.length) =
      1 := by
  have hstretch : ((mask false text).take (front.length + 1 + before.length)).drop front.length =
      '{' :: Glyph.text before := by
    have hlength : front.length + 1 + before.length =
        (Glyph.text front ++ '{' :: Glyph.text before).length := by
      simp only [Glyph.text, List.length_append, List.length_cons, List.length_map]
      omega
    have hmask : mask false text = (Glyph.text front ++ '{' :: Glyph.text before) ++
        (Glyph.text back ++ '}' :: Glyph.text after) := by
      rw [h.mask_eq]
      simp only [Glyph.text, List.map_append, List.append_assoc, List.cons_append]
    have hfront : front.length = (Glyph.text front).length := (List.length_map ..).symm
    rw [hlength, hmask, List.take_left, hfront, List.drop_left]
  have hbefore : openBlocks (Glyph.text before) = 0 := by
    have hnever : ∀ stretch, stretch <+: Glyph.text before →
        stretch.count '}' ≤ 0 + stretch.count '{' := by
      intro stretch hstretch
      apply h.balanced.never_more
      rw [Glyph.text, List.map_append]
      exact hstretch.trans (List.prefix_append _ _)
    have hafter := levelAfter_eq hnever
    rw [hlevel] at hafter
    omega
  rw [hstretch, openBlocks_cons, hbefore]
  rfl

theorem namedIn_run {before run back : List (Glyph Nat)}
    (h : LiesIn text front (before ++ (run ++ back)) after opening closing)
    (hrun : ∀ g ∈ run, isBlank g.shown = false ∧ g.shown ≠ '"') (hlevel : levelAfter 0 before = 0)
    {place : BodyPlace} (hopening : place.opening = front.length)
    (hclosing : place.closing = front.length + 1 + (before ++ (run ++ back)).length) :
    NamedIn text place (Glyph.text run) (front.length + 1 + before.length) := by
  have hplaced : placed text = (front ++ opening :: before) ++
      (run ++ (back ++ closing :: after)) := by
    rw [h.split]
    simp only [List.append_assoc, List.cons_append]
  have hlength : (front ++ opening :: before).length = front.length + 1 + before.length := by
    rw [List.length_append, List.length_cons]
    omega
  constructor
  · rw [← hlength]
    exact standsAt_of_placed_eq hplaced hrun
  · omega
  · rw [hclosing, Glyph.text, List.length_map, List.length_append, List.length_append]
    omega
  · rw [hopening]
    exact h.depth_eq hlevel

theorem source_of_run {before run back : List (Glyph Nat)} {g : Glyph Nat}
    (h : LiesIn text front (before ++ (g :: run ++ back)) after opening closing) :
    g.source = front.length + 1 + before.length := by
  have hplaced : placed text = (front ++ opening :: before) ++
      g :: (run ++ (back ++ closing :: after)) := by
    rw [h.split]
    simp only [List.append_assoc, List.cons_append]
  rw [source_of_placed_eq hplaced, List.length_append, List.length_cons]
  omega

theorem namedIn (h : LiesIn text front inside after opening closing) {element : Element Nat}
    (helement : element ∈ caseElements inside) {place : BodyPlace}
    (hopening : place.opening = front.length)
    (hclosing : place.closing = front.length + 1 + inside.length) :
    NamedIn text place (unquotedText element.name) (nameOffset element) := by
  obtain ⟨hwithin, hspelled⟩ := unquoted_of_mem_caseElements helement
  have hname : unquotedText element.name = Glyph.text (unquoted element.name) := rfl
  rw [hname] at hspelled
  have hplain := hspelled.dotted.plain_glyphs
  have hne : unquoted element.name ≠ [] := by
    intro hnil
    rw [hnil] at hspelled
    exact hspelled.ne_nil rfl
  obtain ⟨before, back, rfl, hlevel⟩ :=
    exists_of_isInfix_flatten hwithin hne fun g hg => (hplain g hg).1
  have hnamed := h.namedIn_run hplain hlevel hopening hclosing
  obtain ⟨g, run, hrun⟩ := List.exists_cons_of_ne_nil hne
  have hoffset : nameOffset element = front.length + 1 + before.length := by
    rw [hrun] at h
    rw [nameOffset, hrun, List.map_cons, List.headD_cons, h.source_of_run]
  rwa [hname, hoffset]

end LiesIn

theorem ReadAt.exists_liesIn {offset : Nat} {header : Header Nat} {declaration : Declaration}
    (h : ReadAt marker text file offset header declaration) {inside : List (Glyph Nat)}
    (hbody : body? header.rest = .ok inside) :
    ∃ front opening closing after, LiesIn text front inside after opening closing ∧
      bodyPlace? header.rest = some ⟨front.length, front.length + 1 + inside.length,
        (caseElements inside).map nameOffset⟩ ∧
      ∃ early tail, Glyph.text header.rest = early ++ '{' :: tail ∧ '{' ∉ early ∧
        front.length + (tail.length + 1) = text.length := by
  obtain ⟨opening, closing, early, after, hbodied⟩ := body?_eq_ok_iff.mp hbody
  have hfound := header?_isFoundIn h.attributed.header_eq
  have hsuffix : header.rest <:+ placed text :=
    (List.suffix_append _ _).trans (hfound.nameAndRest.trans (List.drop_suffix _ _))
  obtain ⟨above, habove⟩ := hsuffix
  have hsplit : placed text = (above ++ early) ++ opening :: (inside ++ closing :: after) := by
    rw [← habove, hbodied.split, List.append_assoc]
  have hlies : LiesIn text (above ++ early) inside after opening closing :=
    ⟨hsplit, hbodied.opens, hbodied.closes, hbodied.balanced⟩
  refine ⟨above ++ early, opening, closing, after, hlies, ?_, Glyph.text early,
    Glyph.text (inside ++ closing :: after), ?_, ?_, ?_⟩
  · rw [hbodied.bodyPlace?_eq, hlies.source_opening]
  · rw [hbodied.split]
    simp only [Glyph.text, List.map_append, List.map_cons, hbodied.opens]
  · exact not_mem_text fun g hg => by simpa using hbodied.first g hg
  · have hlength := congrArg List.length hsplit
    rw [length_placed, List.length_append, List.length_cons] at hlength
    rw [hlength, Glyph.text, List.length_map]

theorem ReadAt.exists_hasBodyAt {offset : Nat} {header : Header Nat} {declaration : Declaration}
    (h : ReadAt marker text file offset header declaration) :
    ∃ place, bodyPlace? header.rest = some place ∧ HasBodyAt marker text declaration place := by
  obtain ⟨inside, hbody, hcases⟩ := h.body
  obtain ⟨front, opening, closing, after, hlies, hplace, early, tail, hrest, hearly, hlength⟩ :=
    h.exists_liesIn hbody
  refine ⟨_, hplace, ?_⟩
  constructor
  · exact ⟨offset, header, early, tail, h.attributed, h.line, hrest, hearly, hlength⟩
  · rw [← hlies.source_opening]
    exact hlies.bracesMatch
  · rw [mapM_eq_ok_iff] at hcases
    apply List.Forall₂.flip
    rw [List.forall₂_map_left_iff]
    have hread := (List.forall₂_and_left _ _).mpr ⟨fun _ helement => helement, hcases⟩
    apply hread.imp
    rintro element found ⟨helement, hfound⟩
    have hname := (exists_read_of_readElement hfound).1
    rw [Element.map, unquotedText_map] at hname
    rw [flip, hname]
    exact hlies.namedIn helement rfl rfl

theorem forall₂_headers_of_readSource {declarations : List Declaration}
    (h : readSource marker file text = .ok declarations) :
    List.Forall₂ (fun declaration found => ∃ offset,
      ReadAt marker text file offset found.2 declaration) declarations
      (headers marker (placed text)) := by
  obtain ⟨offsets, -, hfound⟩ := exists_offsets_of_headers marker text
  rw [readSource_eq_mapM_placed, mapM_eq_ok_iff] at h
  have hplaces : ∀ found ∈ headers marker (placed text), ∃ offset,
      found.1 = lineAt text offset ∧ Attributed marker text offset found.2 := by
    intro found hmem
    obtain ⟨offset, -, hoffset⟩ := exists_mem_of_forall₂ hfound.flip hmem
    exact ⟨offset, hoffset⟩
  apply List.Forall₂.flip
  apply ((List.forall₂_and_left _ _).mpr ⟨hplaces, h⟩).imp
  rintro ⟨line, header⟩ declaration ⟨⟨offset, rfl, hheader⟩, hread⟩
  exact ⟨offset, readAt_of_readPlaced hheader hread⟩

theorem HasBodyAt.disjoint_names {declaration declaration' : Declaration}
    {place other : BodyPlace} (h : HasBodyAt marker text declaration place)
    (h' : HasBodyAt marker text declaration' other) (hne : place.opening ≠ other.opening) :
    List.Disjoint place.names other.names := by
  intro offset hmem hmem'
  obtain ⟨c, -, hnamed⟩ := exists_mem_of_forall₂ h.names.flip hmem
  obtain ⟨c', -, hnamed'⟩ := exists_mem_of_forall₂ h'.names.flip hmem'
  have hclosing := hnamed.le_closing
  have hclosing' := hnamed'.le_closing
  exact hne (h.bracesMatch.opening_eq_of_depth h'.bracesMatch hnamed.opening_lt (by omega)
    hnamed'.opening_lt (by omega) hnamed.depth hnamed'.depth)

theorem cases_in_own_body {declarations : List Declaration}
    (h : readSource marker file text = .ok declarations) :
    List.Forall₂ (HasBodyAt marker text) declarations (bodyPlaces marker text) ∧
      ∀ place ∈ bodyPlaces marker text, ∀ other ∈ bodyPlaces marker text,
        place.opening ≠ other.opening →
          (place.closing < other.opening ∨ other.closing < place.opening ∨
            (place.opening < other.opening ∧ other.closing < place.closing) ∨
            (other.opening < place.opening ∧ place.closing < other.closing)) ∧
          List.Disjoint place.names other.names := by
  have hbodies : List.Forall₂ (HasBodyAt marker text) declarations (bodyPlaces marker text) := by
    apply forall₂_filterMap_right (forall₂_headers_of_readSource h)
    rintro declaration ⟨line, header⟩ ⟨offset, hread⟩
    exact hread.exists_hasBodyAt
  refine ⟨hbodies, ?_⟩
  intro place hplace other hother hne
  obtain ⟨declaration, -, hbody⟩ := exists_mem_of_forall₂ hbodies.flip hplace
  obtain ⟨declaration', -, hbody'⟩ := exists_mem_of_forall₂ hbodies.flip hother
  exact ⟨hbody.bracesMatch.apart_or_nested hbody'.bracesMatch hne, hbody.disjoint_names hbody' hne⟩

theorem cases_in_own_body_nested :
    let text := "@A enum E \x7b\n case a\n @A enum F \x7b case b \x7d\n case c\n\x7d".toList
    let outer : BodyPlace := ⟨10, 50, [18, 48]⟩
    let inner : BodyPlace := ⟨31, 40, [38]⟩
    bodyPlaces "A".toList text = [outer, inner] ∧
      NamedIn text outer "c".toList 48 ∧ NamedIn text inner "b".toList 38 ∧
      outer.opening < inner.opening ∧ inner.closing < outer.closing ∧
      List.Disjoint outer.names inner.names := by
  intro text outer inner
  have hread : readSource "A".toList none text =
      .ok [⟨.enum, "E".toList, [⟨"a".toList, none⟩, ⟨"c".toList, none⟩], none, some 1⟩,
        ⟨.enum, "F".toList, [⟨"b".toList, none⟩], none, some 3⟩] := by decide +kernel
  have hplaces : bodyPlaces "A".toList text = [outer, inner] := by decide +kernel
  obtain ⟨hbodies, hapart⟩ := cases_in_own_body hread
  rw [hplaces] at hbodies hapart
  cases hbodies with
  | cons houter hrest =>
    cases hrest with
    | cons hinner _ =>
      cases houter.names with
      | cons _ hc =>
        cases hc with
        | cons hc _ =>
          cases hinner.names with
          | cons hb _ =>
            have hdisjoint := (hapart outer (by simp) inner (by simp) (by decide)).2
            exact ⟨hplaces, hc, hb, by decide, by decide, hdisjoint⟩

end EnumExport
