import EnumExport.Proofs.Printing.Bodies
import EnumExport.Proofs.Printing.Frames

namespace EnumExport

open Glyph

theorem allowsWords_isQualified : AllowsWords isQualified := by
  intro c hc
  simp [isQualified, Glyph.isWord, hc]

theorem skipBlanks_identifier (name : Identifier) (rest : List (Glyph Char)) :
    skipBlanks (solid name.text ++ rest) = solid name.text ++ rest := by
  have hfirst := isBlank_of_isWord (name.isWord_text _ (List.mem_cons_self ..))
  simp [Identifier.text, skipBlanks, Glyph.isBlank, hfirst]

theorem word_enumKeyword {gap : Char} (hgap : isBlank gap = true) (rest : List (Glyph Char)) :
    leadingWord (solid "enum".toList ++ ⟨gap, gap⟩ :: rest) = "enum".toList ∧
      afterWord (solid "enum".toList ++ ⟨gap, gap⟩ :: rest) = ⟨gap, gap⟩ :: rest := by
  have hword : ∀ g ∈ solid "enum".toList, Glyph.isWord g = true := by decide
  have hstop : ∀ g ∈ ((⟨gap, gap⟩ : Glyph Char) :: rest).head?, Glyph.isWord g = false :=
    forall_mem_head?_cons rest (isWord_of_isBlank hgap)
  constructor
  · rw [leadingWord, takeWhile_append_of_stop hword hstop, text_solid]
  · exact dropWhile_append_of_stop hword hstop

theorem keywordAndName?_enum {gap : Char} (hgap : isBlank gap = true) (rest : List (Glyph Char)) :
    keywordAndName? (solid "enum".toList ++ ⟨gap, gap⟩ :: rest) =
      (spanName? isQualified (skipBlanks rest)).map fun (name, rest) => ⟨.enum, name, rest⟩ := by
  obtain ⟨hleading, hafter⟩ := word_enumKeyword hgap rest
  have hkind : DeclarationKind.ofKeyword? "enum".toList = some .enum := by decide
  have hblanks : afterBlanks? ((⟨gap, gap⟩ : Glyph Char) :: rest) = some (skipBlanks rest) :=
    if_pos hgap
  rw [keywordAndName?, hleading, hafter, hblanks, hkind]
  simp only [Option.bind_eq_bind, Option.bind_some]
  cases spanName? isQualified (skipBlanks rest) <;> rfl

theorem headerItems?_enumKeyword {blank gap : Char} (hblank : isBlank blank = true)
    (hgap : isBlank gap = true) (rest : List (Glyph Char)) :
    headerItems? (⟨blank, blank⟩ :: (solid "enum".toList ++ ⟨gap, gap⟩ :: rest)) =
      (spanName? isQualified (skipBlanks rest)).map fun (name, rest) => ⟨.enum, name, rest⟩ := by
  have hblanks : afterBlanks?
      ((⟨blank, blank⟩ : Glyph Char) :: (solid "enum".toList ++ ⟨gap, gap⟩ :: rest)) =
      some (⟨'e', 'e'⟩ :: (solid "num".toList ++ ⟨gap, gap⟩ :: rest)) := by
    rw [afterBlanks?, if_pos (by exact hblank)]
    rfl
  have hcons : ⟨'e', 'e'⟩ :: (solid "num".toList ++ ⟨gap, gap⟩ :: rest) =
      solid "enum".toList ++ ⟨gap, gap⟩ :: rest := rfl
  have hword : leadingWord (solid "enum".toList ++ ⟨gap, gap⟩ :: rest) ∉ modifiers := by
    rw [(word_enumKeyword hgap rest).1]
    decide
  have hat : 'e' ≠ '@' := by decide
  rw [headerItems?_of_afterBlanks? hblanks, if_neg hat, hcons, if_neg hword,
    keywordAndName?_enum hgap]

theorem headerItems?_enum {blank : Char} (hblank : isBlank blank = true) (name : Identifier)
    {rest : List Char} (hends : EndsName isQualified (solid rest)) :
    headerItems? (solid (blank :: ("enum ".toList ++ (name.text ++ rest)))) =
      some ⟨.enum, solid name.text, solid rest⟩ := by
  have htext : solid (blank :: ("enum ".toList ++ (name.text ++ rest))) =
      ⟨blank, blank⟩ :: (solid "enum".toList ++ ⟨' ', ' '⟩ :: (solid name.text ++ solid rest)) := by
    rw [solid_cons, solid_append, solid_append]
    rfl
  rw [htext, headerItems?_enumKeyword hblank (by decide), skipBlanks_identifier,
    spanName?_identifier allowsWords_isQualified name hends]
  rfl

theorem body?_of_forall {before inside : List Char} (hbefore : ∀ c ∈ before, c ≠ '{')
    (hinside : ∀ g ∈ solid inside, g.shown ≠ '{' ∧ g.shown ≠ '}') (after : List Char) :
    body? (solid (before ++ '{' :: (inside ++ '}' :: after))) = .ok (solid inside) := by
  have hpass : ∀ g ∈ solid before, (g.shown != '{') = true := by
    intro g hg
    obtain ⟨c, hc, rfl⟩ := List.mem_map.mp hg
    simpa using hbefore c hc
  have hstop : ∀ g ∈ (solid ('{' :: (inside ++ '}' :: after))).head?,
      (g.shown != '{') = false := forall_mem_head?_cons _ (by decide)
  have hclosed := blockInside?_of_forall hinside (solid after)
  rw [body?, solid_append, dropWhile_append_of_stop hpass hstop]
  simp [hclosed]

namespace PrintedEnum

variable (printed : PrintedEnum)

theorem holdsNoStop_identifier (name : Identifier) : HoldsNoStop name.text :=
  fun c hc => isStop_of_isWord (name.isWord_text c hc)

theorem mem_afterMarker {c : Char} (h : c ∈ printed.afterMarker) :
    isStop c = false ∨ c = '{' ∨ c = '}' := by
  have hkeyword : HoldsNoStop "\nenum ".toList := by decide
  have htype : HoldsNoStop ": Int ".toList := by decide
  rcases List.mem_append.mp h with h | h
  · exact Or.inl (hkeyword c h)
  · rcases List.mem_append.mp h with h | h
    · exact Or.inl (holdsNoStop_identifier _ c h)
    · rcases List.mem_append.mp h with h | h
      · exact Or.inl (htype c h)
      · rcases List.mem_cons.mp h with h | h
        · exact Or.inr (Or.inl h)
        · rcases List.mem_append.mp h with h | h
          · exact Or.inl (printed.body.holdsNoStop_text c h)
          · exact Or.inr (Or.inr (List.mem_singleton.mp h))

theorem isSolid_text : IsSolid printed.text := by
  have hsolid {c : Char} (h : isStop c = false) : c ≠ '"' ∧ c ≠ '/' :=
    ⟨ne_of_isStop h (by decide), ne_of_isStop h (by decide)⟩
  intro c hc
  rcases List.mem_cons.mp hc with rfl | hc
  · decide
  · rcases List.mem_append.mp hc with hc | hc
    · exact hsolid (holdsNoStop_identifier _ c hc)
    · rcases printed.mem_afterMarker hc with hc | rfl | rfl
      · exact hsolid hc
      · decide
      · decide

theorem spells_marker :
    spells printed.marker.text (solid (printed.marker.text ++ printed.afterMarker)) = true ∧
      afterWord (solid (printed.marker.text ++ printed.afterMarker)) =
        solid printed.afterMarker := by
  have hstop : ∀ g ∈ (solid printed.afterMarker).head?, Glyph.isWord g = false := by
    intro g hg
    obtain rfl := Option.some.inj hg
    decide
  rw [solid_append]
  exact spells_identifier printed.marker hstop

theorem occurrences_text :
    occurrences printed.marker.text 1 (solid printed.text) = [(1, solid printed.afterMarker)] := by
  obtain ⟨hspells, hafter⟩ := printed.spells_marker
  have hnone : ∀ g ∈ solid (printed.marker.text ++ printed.afterMarker), g.shown ≠ '@' := by
    intro g hg
    obtain ⟨c, hc, rfl⟩ := List.mem_map.mp hg
    rcases List.mem_append.mp hc with hc | hc
    · exact ne_of_isStop (holdsNoStop_identifier _ c hc) (by decide)
    · rcases printed.mem_afterMarker hc with hc | rfl | rfl
      · exact ne_of_isStop hc (by decide)
      · decide
      · decide
  rw [text, solid_cons, occurrences]
  simp only [hspells, hafter, occurrences_eq_nil _ _ hnone]
  rfl

theorem header?_afterMarker :
    header? (solid printed.afterMarker) =
      some ⟨.enum, solid printed.name.text, solid printed.afterName⟩ := by
  have hgroup : afterOptionalGroup (solid printed.afterMarker) = solid printed.afterMarker := rfl
  have hends : EndsName isQualified (solid printed.afterName) := by
    intro g hg
    obtain rfl := Option.some.inj hg
    decide
  rw [header?, hgroup]
  exact headerItems?_enum (by decide) printed.name hends

theorem body?_afterName : body? (solid printed.afterName) = .ok (solid printed.body.text) := by
  rw [afterName_eq]
  exact body?_of_forall (by decide) printed.body.shown_text []

end PrintedEnum

theorem readSource_printed (printed : PrintedEnum) (file : Option (List Char)) :
    readSource printed.marker.text file printed.text =
      .ok [⟨.enum, printed.name.text, printed.cases, file, some 1⟩] := by
  rw [readSource, headers, glyphs_of_isSolid printed.isSolid_text, printed.occurrences_text]
  simp only [List.filterMap_cons, List.filterMap_nil, printed.header?_afterMarker, Option.map_some,
    List.mapM_cons, List.mapM_nil, readDeclaration, printed.body?_afterName,
    printed.body.mapM_caseElements, unquotedText_identifier]
  rfl

end EnumExport
