import EnumExport.Proofs.Masking.Seam
import EnumExport.Proofs.Reading.Extension
import EnumExport.Proofs.Text.Words

namespace EnumExport

open Glyph

variable {α : Type}

def lineEnds (gs : List (Glyph α)) : Nat := gs.countP (·.shown == '\n')

theorem occurrences_add (marker : List Char) (line n : Nat) (gs : List (Glyph α)) :
    occurrences marker (line + n) gs =
      (occurrences marker line gs).map fun (l, rest) => (l + n, rest) := by
  induction gs generalizing line with
  | nil => rfl
  | cons g gs ih =>
    simp only [occurrences]
    split
    · rw [Nat.add_right_comm, ih]
    · split <;> simp [ih]

theorem occurrences_eq_nil (marker : List Char) (line : Nat) {gs : List (Glyph α)}
    (h : ∀ g ∈ gs, g.shown ≠ '@') : occurrences marker line gs = [] := by
  induction gs generalizing line with
  | nil => rfl
  | cons g gs ih =>
    have hg := h g (List.mem_cons_self ..)
    have hgs : ∀ d ∈ gs, d.shown ≠ '@' := fun d hd => h d (List.mem_cons_of_mem _ hd)
    simp only [occurrences, hg, false_and, if_false, ih _ hgs, ite_self]

theorem spells_append_cons {marker : List Char} (gs more : List (Glyph α)) {g : Glyph α}
    (hg : g.isWord = false) : spells marker (gs ++ g :: more) = spells marker gs := by
  have hleading : leadingWord (gs ++ g :: more) = leadingWord gs := by
    rw [leadingWord, takeWhile_append_cons gs more hg, leadingWord]
  have hstart : startsName (gs ++ g :: more) = startsName gs := by
    cases gs with
    | nil =>
      have hname : ¬ isNameStart g.shown = true :=
        fun h => ne_of_holds (isWord_of_isNameStart h) hg rfl
      simpa [startsName] using hname
    | cons d gs => rfl
  rw [spells, hleading, hstart, spells]

theorem occurrences_append_cons (marker : List Char) (line : Nat) (gs more : List (Glyph α))
    {g : Glyph α} (hg : g.isWord = false) :
    occurrences marker line (gs ++ g :: more) =
      ((occurrences marker line gs).map fun (l, rest) => (l, rest ++ g :: more)) ++
        occurrences marker (line + lineEnds gs) (g :: more) := by
  induction gs generalizing line with
  | nil => rfl
  | cons d gs ih =>
    simp only [List.cons_append, occurrences, spells_append_cons gs more hg]
    split
    · rename_i hd
      have hcount : line + lineEnds (d :: gs) = line + 1 + lineEnds gs := by
        simp [lineEnds, hd]
        omega
      rw [ih, hcount]
      rfl
    · rename_i hd
      have hcount : lineEnds (d :: gs) = lineEnds gs := by simp [lineEnds, hd]
      rw [hcount]
      split
      · rw [ih, afterWord, dropWhile_append_cons gs more hg]
        rfl
      · exact ih line

theorem occurrences_append_line (marker : List Char) (line : Nat) (gs more : List (Glyph α))
    {g : Glyph α} (hg : g.shown = '\n') :
    occurrences marker line (gs ++ g :: more) =
      ((occurrences marker line gs).map fun (l, rest) => (l, rest ++ g :: more)) ++
        (occurrences marker 1 more).map fun (l, rest) => (l + (line + lineEnds gs), rest) := by
  have hword : g.isWord = false := by
    rw [Glyph.isWord, hg]
    decide
  have hmore : occurrences marker (line + lineEnds gs) (g :: more) =
      occurrences marker (1 + (line + lineEnds gs)) more := by
    rw [occurrences, if_pos hg, Nat.add_comm 1]
  rw [occurrences_append_cons marker line gs more hword, hmore, occurrences_add]

namespace Declaration

def movedDown (lines : Nat) (declaration : Declaration) : Declaration :=
  { declaration with line := declaration.line.map (· + (lines : Int)) }

end Declaration

def ReadError.movedDown (lines : Nat) : ReadError → ReadError
  | source error => source { error with line := error.line + lines }
  | numeral error => numeral error

theorem readDeclaration_add (file : Option (List Char)) (line lines : Nat) (header : Header Char) :
    readDeclaration file (line + lines) header =
      ((readDeclaration file line header).mapError (ReadError.movedDown lines)).map
        (Declaration.movedDown lines) := by
  unfold readDeclaration
  split
  · rfl
  · split
    · rfl
    · simp [Except.mapError, Except.map, Declaration.movedDown]

theorem readDeclaration_append {file : Option (List Char)} {line : Nat} {header : Header Char}
    {declaration : Declaration} (more : List (Glyph Char))
    (h : readDeclaration file line header = .ok declaration) :
    readDeclaration file line { header with rest := header.rest ++ more } = .ok declaration := by
  unfold readDeclaration at h
  split at h
  · simp at h
  · rename_i inside hb
    rw [← h]
    simp only [readDeclaration, body?_append more hb]

theorem rest_ne_nil_of_readDeclaration {file : Option (List Char)} {line : Nat}
    {header : Header Char} {declaration : Declaration}
    (h : readDeclaration file line header = .ok declaration) : header.rest ≠ [] := by
  unfold readDeclaration at h
  split at h
  · simp at h
  · rename_i inside hb
    exact ne_nil_of_body? hb

theorem lineEnds_glyphs (text : List Char) : lineEnds (glyphs text) = text.count '\n' := by
  have hcount : lineEnds (glyphs text) = ((glyphs text).map Glyph.shown).count '\n' := by
    rw [List.count, List.countP_map]
    rfl
  rw [hcount, map_shown_glyphs, count_lineEnd_of_fades (fades_mask false text)]

theorem headers_append_line {marker : List Char} {gs more : List (Glyph α)} {g : Glyph α}
    (hg : g.shown = '\n')
    (hall : ∀ o ∈ occurrences marker 1 gs, ∃ header, header? o.2 = some header ∧ header.rest ≠ []) :
    headers marker (gs ++ g :: more) =
      ((headers marker gs).map fun (line, header) =>
          (line, { header with rest := header.rest ++ g :: more })) ++
        (headers marker more).map fun (line, header) => (line + (lineEnds gs + 1), header) := by
  rw [headers, occurrences_append_line marker 1 gs more hg, List.filterMap_append]
  congr 1
  -- Something is left of the text after each header, so no header reaches beyond the seam.
  · rw [headers, List.map_filterMap, List.filterMap_map]
    apply List.filterMap_congr
    rintro ⟨line, rest⟩ ho
    obtain ⟨header, hheader, hrest⟩ := hall _ ho
    simp [header?_append (g :: more) hheader hrest, hheader]
  · rw [headers, List.map_filterMap, List.filterMap_map]
    apply List.filterMap_congr
    rintro ⟨line, rest⟩ -
    cases hh : header? rest <;> simp [hh, Nat.add_comm]

theorem exists_header_of_length {marker : List Char} {file : Option (List Char)}
    {text : List Char} {declarations : List Declaration}
    (hread : readSource marker file text = .ok declarations)
    (hall : (occurrences marker 1 (glyphs text)).length = declarations.length) :
    ∀ o ∈ occurrences marker 1 (glyphs text),
      ∃ header, header? o.2 = some header ∧ header.rest ≠ [] := by
  intro o ho
  -- As many declarations as occurrences means that no occurrence was passed over.
  have hlen : (headers marker (glyphs text)).length = (occurrences marker 1 (glyphs text)).length :=
    (mapM_eq_ok_iff.mp hread).length_eq.trans hall.symm
  have hsome := List.filterMap_length_eq_length.mp hlen o ho
  obtain ⟨header, hheader⟩ := Option.isSome_iff_exists.mp (by simpa using hsome)
  have hmem : (o.1, header) ∈ headers marker (glyphs text) := by
    rw [headers, List.mem_filterMap]
    exact ⟨o, ho, by simp [hheader]⟩
  obtain ⟨declaration, -, hok⟩ := exists_ok_of_mem_mapM hread hmem
  exact ⟨header, hheader, rest_ne_nil_of_readDeclaration hok⟩

theorem mapM_readDeclaration_append {file : Option (List Char)}
    {found : List (Nat × Header Char)} {declarations : List Declaration} (more : List (Glyph Char))
    (h : (found.mapM fun (line, header) => readDeclaration file line header) = .ok declarations) :
    ((found.map fun (line, header) => (line, { header with rest := header.rest ++ more })).mapM
      fun (line, header) => readDeclaration file line header) = .ok declarations := by
  rw [mapM_eq_ok_iff, List.forall₂_map_left_iff]
  exact (mapM_eq_ok_iff.mp h).imp fun _ _ h => readDeclaration_append _ h

theorem readSource_append_line (marker : List Char) (file : Option (List Char)) {above : List Char}
    (below : List Char) {declarations : List Declaration}
    (hread : readSource marker file above = .ok declarations) (hopen : LeavesNothingOpen above)
    (hall : (occurrences marker 1 (glyphs above)).length = declarations.length) :
    readSource marker file (above ++ '\n' :: below) =
      ((readSource marker file below).mapError (ReadError.movedDown (above.count '\n' + 1))).map
        fun more => declarations ++ more.map (Declaration.movedDown (above.count '\n' + 1)) := by
  have hheaders := @headers_append_line _ marker (glyphs above) (glyphs below) ⟨'\n', '\n'⟩ rfl
    (exists_header_of_length hread hall)
  rw [readSource, glyphs_append_line below hopen, hheaders, lineEnds_glyphs]
  rw [mapM_append_ok _ (mapM_readDeclaration_append (⟨'\n', '\n'⟩ :: glyphs below) hread),
    mapM_map_of_comm fun o => readDeclaration_add file o.1 _ o.2]
  cases hbelow : readSource marker file below with
  | error error =>
    rw [readSource] at hbelow
    rw [hbelow]
    rfl
  | ok more =>
    rw [readSource] at hbelow
    rw [hbelow]
    rfl

theorem readSource_append_line_missing_body :
    let above := "@A enum E \x7b\n case a = 5\n\x7d".toList
    let below := "@B enum G\n@A struct F".toList
    let found : List Declaration :=
      [⟨.enum, "E".toList, [⟨"a".toList, some (.integer 5)⟩], none, some 1⟩]
    readSource "A".toList none above = .ok found ∧ LeavesNothingOpen above ∧
      (occurrences "A".toList 1 (glyphs above)).length = found.length ∧
      readSource "A".toList none (above ++ '\n' :: below) =
        .error (.source ⟨.missing, "F".toList, none, 5⟩) := by
  intro above below found
  have hread : readSource "A".toList none above = .ok found := by decide +kernel
  have hopen : LeavesNothingOpen above := by decide +kernel
  have hall : (occurrences "A".toList 1 (glyphs above)).length = found.length := by decide +kernel
  refine ⟨hread, hopen, hall, ?_⟩
  rw [readSource_append_line "A".toList none below hread hopen hall]
  decide +kernel

end EnumExport
