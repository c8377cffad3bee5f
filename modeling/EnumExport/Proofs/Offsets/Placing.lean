import EnumExport.Proofs.Lists
import EnumExport.Proofs.Masking.Code
import EnumExport.Proofs.Masking.Fading
import EnumExport.Proofs.Reading.Clauses

/-!
Places: the glyphs of a text with their own offsets behind them. What is found in them shows where
in the text it was found, and reading a text is reading them with the characters put back.
-/

namespace EnumExport

open Glyph

def placed (text : List Char) : List (Glyph Nat) :=
  (mask false text).zipIdx.map fun (c, offset) => ⟨c, offset⟩

def behind (text : List Char) (offset : Nat) : Char := (mask true text).getD offset ' '

theorem getElem?_placed (text : List Char) (i : Nat) :
    (placed text)[i]? = (mask false text)[i]?.map (Glyph.mk · i) := by
  rw [placed, List.getElem?_map, List.getElem?_zipIdx, Option.map_map]
  simp [Function.comp_def]

theorem text_placed (text : List Char) : Glyph.text (placed text) = mask false text := by
  apply List.ext_getElem?
  intro i
  rw [Glyph.text, List.getElem?_map, getElem?_placed, Option.map_map]
  cases (mask false text)[i]? <;> rfl

theorem length_placed (text : List Char) : (placed text).length = text.length := by
  rw [placed, List.length_map, List.length_zipIdx, length_mask]

theorem glyphs_eq_map_placed (text : List Char) :
    glyphs text = (placed text).map (Glyph.map (behind text)) := by
  apply List.ext_getElem?
  intro i
  have hlength : (mask false text).length = (mask true text).length := by
    rw [length_mask, length_mask]
  rw [glyphs, List.getElem?_zipWith, List.getElem?_map, getElem?_placed, Option.map_map]
  by_cases hi : i < (mask false text).length
  · have hi' : i < (mask true text).length := hlength ▸ hi
    simp [hi, hi', behind, Glyph.map]
  · have hi' : ¬ i < (mask true text).length := hlength ▸ hi
    simp [hi]

theorem source_of_placed_eq {text : List Char} {front back : List (Glyph Nat)} {g : Glyph Nat}
    (h : placed text = front ++ g :: back) : g.source = front.length := by
  have hget := getElem?_placed text front.length
  rw [h, List.getElem?_append_right (Nat.le_refl _), Nat.sub_self, List.getElem?_cons_zero] at hget
  obtain ⟨c, -, rfl⟩ := Option.map_eq_some_iff.mp hget.symm
  rfl

theorem text_of_placed_eq {text : List Char} {front rest : List (Glyph Nat)}
    (h : placed text = front ++ rest) :
    Glyph.text rest = (mask false text).drop front.length := by
  rw [← text_placed, h, Glyph.text, Glyph.text, ← List.map_drop, List.drop_left]

theorem standsAt_of_placed_eq {text : List Char} {front run back : List (Glyph Nat)}
    (h : placed text = front ++ (run ++ back))
    (hrun : ∀ g ∈ run, isBlank g.shown = false ∧ g.shown ≠ '"') :
    StandsAt text front.length (Glyph.text run) := by
  apply standsAt_of_mask
  · rw [← text_of_placed_eq h, Glyph.text, Glyph.text, List.map_append]
    exact List.prefix_append _ _
  · exact List.forall_mem_map.mpr hrun

end EnumExport
