import EnumExport.Proofs.Printing.Cases
import EnumExport.Proofs.Reading.Blocks
import EnumExport.Proofs.Reading.Concatenation

namespace EnumExport

open Glyph

variable {α : Type}

deriving instance DecidableEq for Header

def Unmarked (marker : List Char) (gs : List (Glyph α)) : Prop := occurrences marker 1 gs = []

instance (marker : List Char) (gs : List (Glyph Char)) : Decidable (Unmarked marker gs) :=
  inferInstanceAs (Decidable (_ = _))

namespace Unmarked

variable {marker : List Char} {gs more : List (Glyph α)}

theorem occurrences_eq (h : Unmarked marker gs) (line : Nat) : occurrences marker line gs = [] := by
  cases line with
  | zero =>
    have hshift := occurrences_add marker 0 1 gs
    rw [Nat.zero_add, h] at hshift
    exact List.map_eq_nil_iff.mp hshift.symm
  | succ line => rw [Nat.add_comm, occurrences_add, h, List.map_nil]

theorem cons {g : Glyph α} (hg : g.shown ≠ '@') (h : Unmarked marker gs) :
    Unmarked marker (g :: gs) := by
  simp [Unmarked, occurrences, hg, h.occurrences_eq]

theorem append {g : Glyph α} (hg : g.isWord = false) (h : Unmarked marker gs)
    (hmore : Unmarked marker (g :: more)) : Unmarked marker (gs ++ g :: more) := by
  rw [Unmarked, occurrences_append_cons marker 1 gs more hg, h, hmore.occurrences_eq]
  rfl

theorem of_forall (h : ∀ g ∈ gs, g.shown ≠ '@') : Unmarked marker gs :=
  occurrences_eq_nil marker 1 h

end Unmarked

theorem isWord_solid_identifier (name : Identifier) :
    ∀ g ∈ solid name.text, Glyph.isWord g = true := by
  intro g hg
  obtain ⟨c, hc, rfl⟩ := List.mem_map.mp hg
  exact name.isWord_text c hc

theorem isSolid_identifier (name : Identifier) : IsSolid name.text := by
  intro c hc
  have hword := name.isWord_text c hc
  exact ⟨ne_of_holds hword (by decide), ne_of_holds hword (by decide)⟩

theorem spells_identifier (name : Identifier) {rest : List (Glyph Char)}
    (hrest : ∀ g ∈ rest.head?, Glyph.isWord g = false) :
    spells name.text (solid name.text ++ rest) = true ∧
      afterWord (solid name.text ++ rest) = rest := by
  have hword := isWord_solid_identifier name
  constructor
  · rw [spells, startsName_identifier, leadingWord, takeWhile_append_of_stop hword hrest,
      text_solid]
    simp
  · exact dropWhile_append_of_stop hword hrest

theorem header?_of_isWord {g : Glyph α} (h : g.isWord = true) (gs : List (Glyph α)) :
    header? (g :: gs) = none := by
  have hblank : g.isBlank = false := isBlank_of_isWord h
  have hskip : skipBlanks (g :: gs) = g :: gs := by simp [skipBlanks, hblank]
  have hparen : g.shown ≠ '(' := ne_of_holds h (by decide)
  rw [header?, afterOptionalGroup, takesOff_afterGroup?.eq_none hskip hparen, Option.getD_none]
  exact headerItems?_eq_none (by simp [afterBlanks?, hblank])

structure Frame where
  marker : Identifier
  above : List Char
  opening : List Char
  below : List Char
  header : Header Char
  isSolid_above : IsSolid above
  isSolid_opening : IsSolid opening
  unmarked_above : Unmarked marker.text (solid above)
  unmarked_opening : Unmarked marker.text (solid opening)
  unmarked_below : Unmarked marker.text (glyphs below)
  header?_opening : header? (solid (opening ++ ['{'])) = some header
  brace_opening : header.rest.dropWhile (·.shown != '{') = [⟨'{', '{'⟩]

namespace Frame

variable (frame : Frame)

def front : List Char :=
  frame.above ++ '@' :: (frame.marker.text ++ (frame.opening ++ ['{']))

def text (body : List Char) : List Char := frame.front ++ (body ++ '}' :: frame.below)

def declaration (file : Option (List Char)) (cases : List EnumCase) : Declaration :=
  ⟨frame.header.kind, unquotedText frame.header.name, cases, file,
    some ((1 + frame.above.count '\n' : Nat) : Int)⟩

theorem isSolid_front : IsSolid frame.front := by
  simp only [IsSolid, front, List.forall_mem_append, List.forall_mem_cons]
  exact ⟨frame.isSolid_above, by decide, isSolid_identifier frame.marker, frame.isSolid_opening,
    by decide, by simp⟩

theorem isWord_head_opening :
    ∀ g ∈ (solid (frame.opening ++ ['{'])).head?, Glyph.isWord g = false := by
  intro g hg
  obtain ⟨rest, hcons⟩ : ∃ rest, solid (frame.opening ++ ['{']) = g :: rest :=
    ⟨_, List.eq_cons_of_mem_head? hg⟩
  have hheader := frame.header?_opening
  rw [hcons] at hheader
  rw [Bool.eq_false_iff]
  intro hword
  rw [header?_of_isWord hword] at hheader
  simp at hheader

theorem rest_ne_nil : frame.header.rest ≠ [] := by
  intro hnil
  have hbrace := frame.brace_opening
  simp [hnil] at hbrace

variable {inside : List (Glyph Char)}

theorem unmarked_rest (hinside : Unmarked frame.marker.text inside) :
    Unmarked frame.marker.text (inside ++ ⟨'}', '}'⟩ :: glyphs frame.below) :=
  hinside.append (by decide) (frame.unmarked_below.cons (by decide))

theorem unmarked_afterMarker {rest : List (Glyph Char)} (hrest : Unmarked frame.marker.text rest) :
    Unmarked frame.marker.text
      (solid frame.marker.text ++ (solid (frame.opening ++ ['{']) ++ rest)) := by
  have hopening : Unmarked frame.marker.text (solid (frame.opening ++ ['{']) ++ rest) := by
    simpa using frame.unmarked_opening.append (by decide) (hrest.cons (g := ⟨'{', '{'⟩) (by decide))
  have hmarker : Unmarked frame.marker.text (solid frame.marker.text) := by
    apply Unmarked.of_forall
    intro g hg
    exact ne_of_holds (isWord_solid_identifier frame.marker g hg) (by decide)
  have hhead := frame.isWord_head_opening
  obtain ⟨g, tail, hcons⟩ := List.exists_cons_of_ne_nil
    (show solid (frame.opening ++ ['{']) ≠ [] by simp)
  rw [hcons] at hopening hhead ⊢
  exact hmarker.append (hhead g rfl) hopening

theorem occurrences_front {rest : List (Glyph Char)} (hrest : Unmarked frame.marker.text rest) :
    occurrences frame.marker.text 1 (solid frame.front ++ rest) =
      [(1 + frame.above.count '\n', solid (frame.opening ++ ['{']) ++ rest)] := by
  have hends : lineEnds (solid frame.above) = frame.above.count '\n' := by
    rw [← glyphs_of_isSolid frame.isSolid_above, lineEnds_glyphs]
  have hhead : ∀ g ∈ (solid (frame.opening ++ ['{']) ++ rest).head?, Glyph.isWord g = false := by
    have hopening := frame.isWord_head_opening
    obtain ⟨g, tail, hcons⟩ := List.exists_cons_of_ne_nil
      (show solid (frame.opening ++ ['{']) ≠ [] by simp)
    rw [hcons] at hopening ⊢
    exact hopening
  obtain ⟨hspells, hafter⟩ := spells_identifier frame.marker hhead
  have htext : solid frame.front ++ rest = solid frame.above ++ ⟨'@', '@'⟩ ::
      (solid frame.marker.text ++ (solid (frame.opening ++ ['{']) ++ rest)) := by
    simp [front]
  rw [htext, occurrences_append_cons _ _ _ _ (by decide), frame.unmarked_above, hends, occurrences,
    if_neg (by decide), if_pos ⟨rfl, hspells⟩, hafter,
    (frame.unmarked_afterMarker hrest).occurrences_eq]
  rfl

theorem headers_front {rest : List (Glyph Char)} (hrest : Unmarked frame.marker.text rest) :
    headers frame.marker.text (solid frame.front ++ rest) =
      [(1 + frame.above.count '\n',
        { frame.header with rest := frame.header.rest ++ rest })] := by
  have hheader := header?_append rest frame.header?_opening frame.rest_ne_nil
  rw [headers, frame.occurrences_front hrest]
  simp only [List.filterMap_cons, List.filterMap_nil, hheader, Option.map_some]

theorem readSource_text (file : Option (List Char)) {body : List Char}
    (hglyphs : glyphs (body ++ '}' :: frame.below) = inside ++ ⟨'}', '}'⟩ :: glyphs frame.below)
    (hunmarked : Unmarked frame.marker.text inside)
    (hclosed : blockInside? 0 (inside ++ ⟨'}', '}'⟩ :: glyphs frame.below) =
      some (inside, glyphs frame.below)) :
    readSource frame.marker.text file (frame.text body) =
      (((caseElements inside).mapM readElement).mapError .numeral).map fun cases =>
        [frame.declaration file cases] := by
  have hbody : body? (frame.header.rest ++ (inside ++ ⟨'}', '}'⟩ :: glyphs frame.below)) =
      .ok inside := by
    have hbrace := frame.brace_opening
    rw [body?, dropWhile_append_of_ne_nil _ (by simp [hbrace]), hbrace]
    simp [hclosed]
  rw [readSource, text, glyphs_append_of_isSolid frame.isSolid_front, hglyphs,
    frame.headers_front (frame.unmarked_rest hunmarked)]
  simp only [List.mapM_cons, List.mapM_nil, readDeclaration, hbody]
  cases (caseElements inside).mapM readElement <;> rfl

theorem readSource_solid (file : Option (List Char)) {body : List Char} (hsolid : IsSolid body)
    (hunmarked : Unmarked frame.marker.text (solid body)) (hcloses : Closes 0 body) :
    readSource frame.marker.text file (frame.text body) =
      (((caseElements (solid body)).mapM readElement).mapError .numeral).map fun cases =>
        [frame.declaration file cases] := by
  have hglyphs : glyphs (body ++ '}' :: frame.below) =
      solid body ++ ⟨'}', '}'⟩ :: glyphs frame.below := by
    rw [glyphs_append_of_isSolid hsolid, glyphs_cons_of_ne (by decide) (by decide)]
  exact frame.readSource_text file hglyphs hunmarked (blockInside?_of_closes hcloses _)

end Frame

def plainFrame : Frame where
  marker := .of 'G' "odotEnum".toList (.refl true)
  above := []
  opening := "\nenum N: Int ".toList
  below := "\n".toList
  header := ⟨.enum, solid "N".toList, solid ": Int \x7b".toList⟩
  isSolid_above := by unfold IsSolid; decide
  isSolid_opening := by unfold IsSolid; decide
  unmarked_above := by decide
  unmarked_opening := by decide
  unmarked_below := by decide +kernel
  header?_opening := by decide +kernel
  brace_opening := by decide

def sampleFrame : Frame where
  marker := .of 'A' [] (.refl true)
  above := "@B enum A \x7b \x7d\n".toList
  opening := "(x)\nfinal enum N: Int ".toList
  below := "// @A\n".toList
  header := ⟨.enum, solid "N".toList, solid ": Int \x7b".toList⟩
  isSolid_above := by unfold IsSolid; decide
  isSolid_opening := by unfold IsSolid; decide
  unmarked_above := by decide
  unmarked_opening := by decide
  unmarked_below := by decide +kernel
  header?_opening := by decide +kernel
  brace_opening := by decide

end EnumExport
