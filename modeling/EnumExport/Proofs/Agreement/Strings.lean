import EnumExport.Proofs.Agreement.Declarations
import EnumExport.Proofs.Reading.Blocks
import EnumExport.Proofs.Reading.Suffixes

namespace EnumExport

open Glyph

def quotedAfter (quoted : Bool) (c : Char) : Bool := c == '"' || quoted && c != '='

/-- Between an equals sign and the next quote nothing is hidden, and a quote hides nothing. -/
def HidesInQuotes : Bool → List (Glyph Char) → Prop
  | _, [] => True
  | quoted, g :: gs =>
    (quoted = false ∨ g.shown = '"' → g.source = g.shown) ∧
      HidesInQuotes (quotedAfter quoted g.shown) gs

namespace HidesInQuotes

theorem mono {quoted quoted' : Bool} {gs : List (Glyph Char)} (h : HidesInQuotes quoted gs)
    (hquoted : quoted = true → quoted' = true) : HidesInQuotes quoted' gs := by
  induction gs generalizing quoted quoted' with
  | nil => trivial
  | cons g gs ih =>
    obtain ⟨hsource, hrest⟩ := h
    refine ⟨fun hplain => hsource (hplain.imp_left ?_), ih hrest ?_⟩
    · cases quoted <;> simp_all
    · simp only [quotedAfter, Bool.or_eq_true, Bool.and_eq_true]
      exact Or.imp_right (And.imp_left hquoted)

theorem of_append_left {quoted : Bool} {gs hs : List (Glyph Char)}
    (h : HidesInQuotes quoted (gs ++ hs)) : HidesInQuotes quoted gs := by
  induction gs generalizing quoted with
  | nil => trivial
  | cons g gs ih => exact ⟨h.1, ih h.2⟩

theorem of_append_right {quoted : Bool} {gs hs : List (Glyph Char)}
    (h : HidesInQuotes quoted (gs ++ hs)) : HidesInQuotes true hs := by
  induction gs generalizing quoted with
  | nil => exact h.mono fun _ => rfl
  | cons g gs ih => exact ih h.2

theorem of_isInfix {quoted : Bool} {gs hs : List (Glyph Char)} (h : HidesInQuotes quoted hs)
    (hpart : gs <:+: hs) : HidesInQuotes true gs := by
  obtain ⟨front, back, rfl⟩ := hpart
  exact h.of_append_left.of_append_right

theorem append {quoted : Bool} {gs hs : List (Glyph Char)} (h : HidesInQuotes quoted gs)
    (hrest : ∀ quoted, HidesInQuotes quoted hs) : HidesInQuotes quoted (gs ++ hs) := by
  induction gs generalizing quoted with
  | nil => exact hrest quoted
  | cons g gs ih => exact ⟨h.1, ih h.2⟩

theorem of_source_eq {gs : List (Glyph Char)} (h : ∀ g ∈ gs, g.source = g.shown)
    (quoted : Bool) : HidesInQuotes quoted gs := by
  induction gs generalizing quoted with
  | nil => trivial
  | cons g gs ih =>
    exact ⟨fun _ => h g (List.mem_cons_self ..), ih (fun d hd => h d (List.mem_cons_of_mem _ hd)) _⟩

end HidesInQuotes

theorem hidesInQuotes_inner (inner : List Char) {rest : List (Glyph Char)}
    (h : HidesInQuotes true rest) :
    HidesInQuotes true (hidden inner ++ rest) := by
  induction inner with
  | nil => exact h
  | cons c inner ih =>
    have hblank : ∀ d, d = '\n' ∨ d = ' ' → d ≠ '"' ∧ quotedAfter true d = true := by
      rintro d (rfl | rfl) <;> decide
    obtain ⟨hquote, hafter⟩ := hblank (if c = '\n' then c else ' ') (by split <;> simp_all)
    refine ⟨fun hplain => ?_, ?_⟩
    · exact absurd (hplain.resolve_left (by decide)) hquote
    · rw [hafter]
      exact ih

theorem Lexeme.hidesInQuotes (lexeme : Lexeme) (quoted : Bool) :
    HidesInQuotes quoted lexeme.glyphs := by
  cases lexeme with
  | code c => exact ⟨fun _ => rfl, trivial⟩
  | string inner =>
    have hglyphs : (string inner).glyphs =
        ⟨'"', '"'⟩ :: (hidden inner ++ [⟨'"', '"'⟩]) := by
      simp [glyphs, masked, List.zipWith_append, zipWith_blankOut]
    rw [hglyphs]
    exact ⟨fun _ => rfl, hidesInQuotes_inner inner ⟨fun _ => rfl, trivial⟩⟩
  | comment inner =>
    apply HidesInQuotes.of_source_eq
    intro g hg
    rw [glyphs, masked, masked, List.zipWith_self] at hg
    obtain ⟨c, -, rfl⟩ := List.mem_map.mp hg
    rfl

theorem hidesInQuotes_glyphs (text : List Char) (quoted : Bool) :
    HidesInQuotes quoted (glyphs text) := by
  induction text using lexemes.induct generalizing quoted with
  | case1 => simp [glyphs, mask, lexemes, HidesInQuotes]
  | case2 c text ih =>
    rw [glyphs_cons]
    exact ((Lexeme.next c text).1.hidesInQuotes quoted).append ih

variable {β : Type}

theorem agrees_flattenAt (f f' : β → Char) {gs : List (Glyph β)} {depth : Nat}
    {loose veiled quoted : Bool} (h : HidesInQuotes quoted (gs.map (Glyph.map f)))
    (h' : HidesInQuotes quoted (gs.map (Glyph.map f')))
    (hveiled : veiled = false → depth = 0 ∧ quoted = false) :
    Agrees loose veiled (flattenAt depth (gs.map (Glyph.map f)))
      (flattenAt depth (gs.map (Glyph.map f'))) := by
  induction gs generalizing depth loose veiled quoted with
  | nil => exact .nil
  | cons g gs ih =>
    obtain ⟨hsource, hrest⟩ := h
    obtain ⟨hsource', hrest'⟩ := h'
    rw [List.map_cons, List.map_cons, flattenAt_cons, flattenAt_cons]
    have hplain : veiled = false → f g.source = g.shown ∧ f' g.source = g.shown := fun hv =>
      ⟨hsource (.inl (hveiled hv).2), hsource' (.inl (hveiled hv).2)⟩
    refine .both rfl (fun hv => (hplain hv).1.trans (hplain hv).2.symm) (ih hrest hrest' ?_)
    intro hunveiled
    rcases veilAfter_eq_false hunveiled with hequals | ⟨hv, hforeign⟩
    · obtain ⟨hshown, hdepth⟩ := eq_of_flatShown hequals (by decide)
      rw [hshown, hdepth]
      simp [levelStep, quotedAfter]
    · -- Nothing foreign has come up, so this is no brace and no quote.
      obtain ⟨hdepth, hquoted⟩ := hveiled hv
      have hforeign : isForeign g.shown = false := by
        have hkept := hforeign ((hplain hv).1.trans (hplain hv).2.symm)
        rwa [Glyph.source_map, (hplain hv).1] at hkept
      have hne (c : Char) (hc : isForeign c = true) : g.shown ≠ c := by
        rintro rfl
        rw [hc] at hforeign
        exact absurd hforeign (by decide)
      simp [levelStep, quotedAfter, hdepth, hquoted, hne '{' (by decide), hne '}' (by decide),
        hne '"' (by decide)]

theorem agrees_flatten (f f' : β → Char) {gs : List (Glyph β)}
    (h : HidesInQuotes true (gs.map (Glyph.map f)))
    (h' : HidesInQuotes true (gs.map (Glyph.map f'))) :
    Agrees true true (flatten (gs.map (Glyph.map f))) (flatten (gs.map (Glyph.map f'))) :=
  agrees_flattenAt f f' h h' fun hveiled => absurd hveiled (by decide)

theorem outline_readDeclaration_map (f f' : β → Char) {gs : List (Glyph β)}
    (h : HidesInQuotes true (gs.map (Glyph.map f)))
    (h' : HidesInQuotes true (gs.map (Glyph.map f'))) (file : Option (List Char)) (line : Nat)
    {header : Header β} (hrest : header.rest <:+ gs) :
    (readDeclaration file line (header.map f)).map Declaration.outline =
      (readDeclaration file line (header.map f')).map Declaration.outline := by
  have hname : unquotedText (header.map f).name = unquotedText (header.map f').name :=
    Agrees.unquotedText_eq ((text_map f header.name).trans (text_map f' header.name).symm)
  rw [map_outline_readDeclaration, map_outline_readDeclaration]
  simp only [hname]
  simp only [Header.map, body?_map, text_map]
  cases hbody : body? header.rest with
  | error fault => rfl
  | ok inside =>
    have hinside : inside <:+: gs := (isInfix_of_body? hbody).trans hrest.isInfix
    have hagrees :=
      agrees_flatten f f' (h.of_isInfix (hinside.map _)) (h'.of_isInfix (hinside.map _))
    simp only [Except.map, caseOutlines_eq hagrees]

theorem readOutlines_map (f f' : β → Char) {gs : List (Glyph β)} {text text' : List Char}
    (hgs : glyphs text = gs.map (Glyph.map f)) (hgs' : glyphs text' = gs.map (Glyph.map f'))
    (marker : List Char) (file : Option (List Char)) :
    readOutlines marker file text = readOutlines marker file text' := by
  have h := hidesInQuotes_glyphs text true
  have h' := hidesInQuotes_glyphs text' true
  rw [hgs] at h
  rw [hgs'] at h'
  rw [readOutlines, readOutlines, readSource, readSource, hgs, hgs', headers_map, headers_map]
  apply map_mapM_eq
  rw [List.forall₂_map_left_iff, List.forall₂_map_right_iff, List.forall₂_same]
  exact fun found hfound =>
    outline_readDeclaration_map f f' h h' file found.1 (headers_suffix hfound)

def commonGlyphs (text text' : List Char) : List (Glyph (Char × Char)) :=
  (mask false text).zipWith Glyph.mk ((mask true text).zip (mask true text'))

theorem glyphs_eq_map_commonGlyphs {text text' : List Char}
    (h : mask false text = mask false text') :
    glyphs text = (commonGlyphs text text').map (Glyph.map Prod.fst) ∧
      glyphs text' = (commonGlyphs text text').map (Glyph.map Prod.snd) := by
  have hlength : (mask true text).length = (mask true text').length := by
    have hsame := congrArg List.length h
    rw [length_mask, length_mask] at hsame
    rw [length_mask, length_mask, hsame]
  have hmap (f : Char × Char → Char) : (commonGlyphs text text').map (Glyph.map f) =
      (mask false text).zipWith Glyph.mk (((mask true text).zip (mask true text')).map f) := by
    rw [commonGlyphs, List.map_zipWith, List.zipWith_map_right]
    rfl
  rw [hmap, hmap, List.map_fst_zip hlength.le, List.map_snd_zip hlength.ge, h]
  exact ⟨by rw [glyphs, h], rfl⟩

theorem string_insides_hidden (marker : List Char) (file : Option (List Char))
    {text text' : List Char} (h : mask false text = mask false text') :
    readOutlines marker file text = readOutlines marker file text' := by
  obtain ⟨hgs, hgs'⟩ := glyphs_eq_map_commonGlyphs h
  exact readOutlines_map Prod.fst Prod.snd hgs hgs' marker file

theorem string_insides_hidden_sample :
    let text :=
      "@A enum N: Int \x7b\n case a = \"1, b\" // =5\n case c = 0x1F, d = \"@A\" \x7d".toList
    let text' :=
      "@A enum N: Int \x7b\n case a = \"= \\\"\"      \n case c = 0x1F, d = \"\x7d;\" \x7d".toList
    mask false text = mask false text' ∧
      readOutlines "A".toList none text = readOutlines "A".toList none text' ∧
      readOutlines "A".toList none text' =
        .ok [⟨.enum, "N".toList, [⟨"a".toList, some none⟩, ⟨"c".toList, some (some 31)⟩,
          ⟨"d".toList, some none⟩], none, some 1⟩] := by
  intro text text'
  have hmask : mask false text = mask false text' := by decide +kernel
  exact ⟨hmask, string_insides_hidden "A".toList none hmask, by decide +kernel⟩

end EnumExport
