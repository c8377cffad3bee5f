import EnumExport.Proofs.Masking.FirstLexeme
import EnumExport.Source.Glyph

namespace EnumExport

def IsSolid (text : List Char) : Prop := ∀ c ∈ text, c ≠ '"' ∧ c ≠ '/'

theorem IsSolid.append {text more : List Char} (h : IsSolid text) (hmore : IsSolid more) :
    IsSolid (text ++ more) := List.forall_mem_append.mpr ⟨h, hmore⟩

theorem IsSolid.cons {c : Char} {text : List Char} (hc : c ≠ '"' ∧ c ≠ '/') (h : IsSolid text) :
    IsSolid (c :: text) := List.forall_mem_cons.mpr ⟨hc, h⟩

theorem isSolid_nil : IsSolid [] := List.forall_mem_nil _

def solid (text : List Char) : List (Glyph Char) := text.map fun c => ⟨c, c⟩

@[simp] theorem solid_nil : solid [] = [] := rfl

@[simp] theorem solid_cons (c : Char) (text : List Char) :
    solid (c :: text) = ⟨c, c⟩ :: solid text := rfl

@[simp] theorem solid_append (text more : List Char) :
    solid (text ++ more) = solid text ++ solid more := List.map_append

@[simp] theorem text_solid (text : List Char) : Glyph.text (solid text) = text := by
  simp [solid, Glyph.text, Function.comp_def]

@[simp] theorem map_source_solid (text : List Char) : (solid text).map Glyph.source = text := by
  simp [solid, Function.comp_def]

def hidden (text : List Char) : List (Glyph Char) :=
  text.map fun c => ⟨if c = '\n' then c else ' ', c⟩

@[simp] theorem hidden_cons (c : Char) (text : List Char) :
    hidden (c :: text) = ⟨if c = '\n' then c else ' ', c⟩ :: hidden text := rfl

@[simp] theorem map_source_hidden (text : List Char) : (hidden text).map Glyph.source = text := by
  simp [hidden, Function.comp_def]

theorem zipWith_blankOut (text : List Char) :
    (blankOut text).zipWith Glyph.mk text = hidden text := by
  simp [blankOut, hidden, List.zipWith_map_left, List.zipWith_self]

theorem lexemes_of_isSolid {text : List Char} (h : IsSolid text) :
    lexemes text = text.map .code := by
  induction text with
  | nil => simp [lexemes]
  | cons c text ih =>
    obtain ⟨hq, hs⟩ := h c (List.mem_cons_self ..)
    have hnext := (Lexeme.Starts.code (Lexeme.hidden?_eq_none text hq hs)).next_eq
    rw [lexemes_cons, hnext, ih fun d hd => h d (List.mem_cons_of_mem _ hd), List.map_cons]

theorem mask_of_isSolid (keepStrings : Bool) {text : List Char} (h : IsSolid text) :
    mask keepStrings text = text := by
  rw [mask, lexemes_of_isSolid h, List.flatMap_map]
  simp [Lexeme.masked]

theorem glyphs_of_isSolid {text : List Char} (h : IsSolid text) : glyphs text = solid text := by
  rw [glyphs, mask_of_isSolid _ h, mask_of_isSolid _ h, List.zipWith_self]
  rfl

def Lexeme.glyphs (lexeme : Lexeme) : List (Glyph Char) :=
  (lexeme.masked false).zipWith Glyph.mk (lexeme.masked true)

theorem glyphs_cons (c : Char) (text : List Char) :
    glyphs (c :: text) = (Lexeme.next c text).1.glyphs ++ glyphs (Lexeme.next c text).2 := by
  have hlength := fun lexeme : Lexeme =>
    (lexeme.length_masked false).trans (lexeme.length_masked true).symm
  rw [glyphs, mask_cons, mask_cons, List.zipWith_append (hlength _), Lexeme.glyphs, glyphs]

theorem glyphs_cons_of_ne {c : Char} (hquote : c ≠ '"') (hslash : c ≠ '/') (text : List Char) :
    glyphs (c :: text) = ⟨c, c⟩ :: glyphs text := by
  have hnext := (Lexeme.Starts.code (Lexeme.hidden?_eq_none text hquote hslash)).next_eq
  rw [glyphs_cons, hnext]
  rfl

theorem glyphs_append_of_isSolid {text : List Char} (h : IsSolid text) (rest : List Char) :
    glyphs (text ++ rest) = solid text ++ glyphs rest := by
  induction text with
  | nil => rfl
  | cons c text ih =>
    obtain ⟨hquote, hslash⟩ := h c (List.mem_cons_self ..)
    rw [List.cons_append, glyphs_cons_of_ne hquote hslash,
      ih fun d hd => h d (List.mem_cons_of_mem _ hd)]
    rfl

end EnumExport
