import EnumExport.Proofs.Offsets.Occurrences
import EnumExport.Proofs.Reading.Braces
import EnumExport.Proofs.Reading.Declarations

namespace EnumExport

open Glyph

variable {marker text : List Char} {file : Option (List Char)}

structure Faulty (marker text : List Char) (offset : Nat) (header : Header Nat)
    (fault : BodyFault) : Prop where
  attributed : Attributed marker text offset header
  isSeen : fault.IsSeenIn (Glyph.text header.rest)

def readPlaced (text : List Char) (file : Option (List Char)) (found : Nat × Header Nat) :
    Except ReadError Declaration :=
  readDeclaration file found.1 (found.2.map (behind text))

theorem readSource_eq_mapM_placed (marker : List Char) (file : Option (List Char))
    (text : List Char) :
    readSource marker file text = (headers marker (placed text)).mapM (readPlaced text file) := by
  rw [readSource, glyphs_eq_map_placed, headers_map, List.mapM_map]
  rfl

theorem readPlaced_eq_source_iff {found : Nat × Header Nat} {error : SourceError} :
    readPlaced text file found = .error (.source error) ↔
      error.fault.IsSeenIn (Glyph.text found.2.rest) ∧
        error = ⟨error.fault, Glyph.text found.2.name, file, found.1⟩ := by
  have hrest : Glyph.text (found.2.map (behind text)).rest = Glyph.text found.2.rest :=
    text_map _ _
  have hname : Glyph.text (found.2.map (behind text)).name = Glyph.text found.2.name :=
    text_map _ _
  rw [readPlaced, readDeclaration_eq_source_iff]
  simp only [body?_eq_error_iff, hrest, hname]
  constructor
  · rintro ⟨fault, hseen, rfl⟩
    exact ⟨hseen, rfl⟩
  · rintro ⟨hseen, herror⟩
    exact ⟨error.fault, hseen, herror⟩

theorem Faulty.not_read {offset : Nat} {header : Header Nat} {fault : BodyFault}
    (h : Faulty marker text offset header fault) {line : Nat} {declaration : Declaration} :
    readPlaced text file (line, header) ≠ .ok declaration := by
  intro hok
  have herror : readPlaced text file (line, header) =
      .error (.source ⟨fault, Glyph.text header.name, file, line⟩) :=
    readPlaced_eq_source_iff.mpr ⟨h.isSeen, rfl⟩
  rw [herror] at hok
  exact nomatch hok

theorem exists_first_faulty {error : SourceError}
    (h : readSource marker file text = .error (.source error)) :
    ∃ offset header, Faulty marker text offset header error.fault ∧
      (∀ earlier < offset, ∀ header fault, ¬ Faulty marker text earlier header fault) ∧
      error = ⟨error.fault, Glyph.text header.name, file, lineAt text offset⟩ := by
  obtain ⟨offsets, hoffsets, hfound⟩ := exists_offsets_of_headers marker text
  rw [readSource_eq_mapM_placed, mapM_eq_error_iff] at h
  obtain ⟨before, ⟨line, header⟩, after, hsplit, hbefore, hread⟩ := h
  rw [hsplit] at hfound
  obtain ⟨front, offset, back, rfl, hfront, hline, hheader⟩ :=
    exists_append_cons_of_forall₂ hfound
  obtain ⟨hseen, herror⟩ := readPlaced_eq_source_iff.mp hread
  refine ⟨offset, header, ⟨hheader, hseen⟩, ?_, hline ▸ herror⟩
  intro earlier hlt header' fault hfaulty
  -- An earlier attributed place comes before this one in the list, and was read.
  have hmem : earlier ∈ front := by
    have hall := (hoffsets.mem_iff earlier).mpr ⟨header', hfaulty.attributed⟩
    have hincreasing := (List.pairwise_append.mp hoffsets.increasing).2.1
    rcases List.mem_append.mp hall with hmem | hmem
    · exact hmem
    · rcases List.mem_cons.mp hmem with rfl | hmem
      · omega
      · have hafter := List.rel_of_pairwise_cons hincreasing hmem
        omega
  obtain ⟨⟨line', header''⟩, hmem', -, hheader''⟩ := exists_mem_of_forall₂ hfront hmem
  obtain rfl := hfaulty.attributed.unique hheader''
  obtain ⟨declaration, hok⟩ := hbefore _ hmem'
  exact hfaulty.not_read hok

theorem Faulty.readSource_ne_ok {offset : Nat} {header : Header Nat} {fault : BodyFault}
    (h : Faulty marker text offset header fault) (declarations : List Declaration) :
    readSource marker file text ≠ .ok declarations := by
  intro hok
  obtain ⟨offsets, hoffsets, hfound⟩ := exists_offsets_of_headers marker text
  have hmem := (hoffsets.mem_iff offset).mpr ⟨header, h.attributed⟩
  obtain ⟨⟨line, header'⟩, hmem', -, hheader⟩ := exists_mem_of_forall₂ hfound hmem
  obtain rfl := h.attributed.unique hheader
  rw [readSource_eq_mapM_placed] at hok
  obtain ⟨declaration, -, hread⟩ := exists_ok_of_mem_mapM hok hmem'
  exact h.not_read hread

structure ReadAt (marker text : List Char) (file : Option (List Char)) (offset : Nat)
    (header : Header Nat) (declaration : Declaration) : Prop where
  attributed : Attributed marker text offset header
  kind : declaration.kind = header.kind
  name : declaration.name = unquotedText header.name
  file_eq : declaration.file = file
  line : declaration.line = some (lineAt text offset : Int)
  body : ∃ inside, body? header.rest = .ok inside ∧
    (caseElements inside).mapM (fun element => readElement (element.map (behind text))) =
      .ok declaration.cases

theorem readAt_of_readPlaced {offset : Nat} {header : Header Nat} {declaration : Declaration}
    (hheader : Attributed marker text offset header)
    (h : readPlaced text file (lineAt text offset, header) = .ok declaration) :
    ReadAt marker text file offset header declaration := by
  obtain ⟨inside', cases, hbody, hcases, rfl⟩ := readDeclaration_eq_ok_iff.mp h
  have hmap := body?_map (behind text) header.rest
  cases hinside : body? header.rest with
  | error fault =>
    rw [hinside] at hmap
    exact nomatch hmap.symm.trans hbody
  | ok inside =>
    rw [hinside] at hmap
    obtain rfl := Except.ok.inj (hmap.symm.trans hbody)
    rw [caseElements_map, List.mapM_map] at hcases
    exact ⟨hheader, rfl, unquotedText_map _ _, rfl, rfl, inside, hinside, hcases⟩

theorem exists_offsets_of_readSource {declarations : List Declaration}
    (h : readSource marker file text = .ok declarations) :
    ∃ offsets, AreAttributed marker text offsets ∧
      List.Forall₂ (fun offset declaration => ∃ header,
        ReadAt marker text file offset header declaration) offsets declarations := by
  obtain ⟨offsets, hoffsets, hfound⟩ := exists_offsets_of_headers marker text
  rw [readSource_eq_mapM_placed, mapM_eq_ok_iff] at h
  refine ⟨offsets, hoffsets, (forall₂_comp hfound h).imp ?_⟩
  rintro offset declaration ⟨⟨line, header⟩, ⟨rfl, hheader⟩, hread⟩
  exact ⟨header, readAt_of_readPlaced hheader hread⟩

theorem rejected_iff_faulty (marker : List Char) (file : Option (List Char)) (text : List Char)
    (hvalues : ∀ error, readSource marker file text ≠ .error (.numeral error)) :
    ((∃ error, readSource marker file text = .error (.source error)) ↔
        ∃ offset header fault, Faulty marker text offset header fault) ∧
      (∀ error, readSource marker file text = .error (.source error) →
        ∃ offset header, Faulty marker text offset header error.fault ∧
          (∀ earlier < offset, ∀ header fault, ¬ Faulty marker text earlier header fault) ∧
          error = ⟨error.fault, Glyph.text header.name, file, lineAt text offset⟩) ∧
      ((¬ ∃ offset header fault, Faulty marker text offset header fault) →
        ∃ declarations offsets, readSource marker file text = .ok declarations ∧
          AreAttributed marker text offsets ∧
          List.Forall₂ (fun offset declaration => ∃ header,
            ReadAt marker text file offset header declaration) offsets declarations) := by
  have hiff : (∃ error, readSource marker file text = .error (.source error)) ↔
      ∃ offset header fault, Faulty marker text offset header fault := by
    constructor
    · rintro ⟨error, herror⟩
      obtain ⟨offset, header, hfaulty, -, -⟩ := exists_first_faulty herror
      exact ⟨offset, header, error.fault, hfaulty⟩
    · rintro ⟨offset, header, fault, hfaulty⟩
      cases hread : readSource marker file text with
      | ok declarations => exact absurd hread (hfaulty.readSource_ne_ok declarations)
      | error error =>
        cases error with
        | source error => exact ⟨error, rfl⟩
        | numeral error => exact absurd hread (hvalues error)
  refine ⟨hiff, fun error => exists_first_faulty, ?_⟩
  intro hnone
  cases hread : readSource marker file text with
  | error error =>
    cases error with
    | source error => exact absurd (hiff.mp ⟨error, hread⟩) hnone
    | numeral error => exact absurd hread (hvalues error)
  | ok declarations =>
    obtain ⟨offsets, hoffsets, hread⟩ := exists_offsets_of_readSource hread
    exact ⟨declarations, offsets, rfl, hoffsets, hread⟩

theorem rejected_iff_faulty_missing :
    let text := "@A enum E \x7b\n case a\n\x7d // @A enum C\n\"@A enum D\"\n@A struct F".toList
    readSource "A".toList none text = .error (.source ⟨.missing, "F".toList, none, 5⟩) ∧
      ∃ offset header, Faulty "A".toList text offset header .missing ∧ lineAt text offset = 5 ∧
        ∀ earlier < offset, ∀ header fault, ¬ Faulty "A".toList text earlier header fault := by
  intro text
  have hread : readSource "A".toList none text =
      .error (.source ⟨.missing, "F".toList, none, 5⟩) := by decide +kernel
  have hvalues : ∀ error, readSource "A".toList none text ≠ .error (.numeral error) := by
    intro error
    rw [hread]
    exact nofun
  obtain ⟨-, hfirst, -⟩ := rejected_iff_faulty "A".toList none text hvalues
  obtain ⟨offset, header, hfaulty, hearlier, herror⟩ := hfirst _ hread
  have hline := congrArg SourceError.line herror
  simp only at hline
  exact ⟨hread, offset, header, hfaulty, by omega, hearlier⟩

end EnumExport
