import EnumExport.Proofs.Lists
import EnumExport.Proofs.Literals.Expressions
import EnumExport.Source.Reader

namespace EnumExport

open Glyph

def Element.IsOverlong (element : Element Char) : Prop :=
  ∃ rawValue ∈ element.rawValue, ∃ signed : SignedLiteral,
    trim (rawValue.map Glyph.source) = signed.text ∧ signed.literal.IsOverlong

theorem readElement_eq_error_iff {element : Element Char} :
    (∃ error, readElement element = .error error) ↔ element.IsOverlong := by
  rw [Element.IsOverlong]
  cases hraw : element.rawValue with
  | none => simp [readElement, hraw, pure, Except.pure, bind, Except.bind]
  | some gs =>
    have hread : (∃ error, readElement element = .error error) ↔
        ∃ error, Expression.read (gs.map Glyph.source) = .error error := by
      cases hr : Expression.read (gs.map Glyph.source) <;>
        simp [readElement, hraw, hr, pure, Except.pure, bind, Except.bind, Functor.map, Except.map]
    rw [hread]
    constructor
    · rintro ⟨error, herror⟩
      obtain ⟨signed, htrim, hlong, -⟩ := Expression.read_eq_error_iff.mp herror
      exact ⟨gs, rfl, signed, htrim, hlong⟩
    · rintro ⟨rawValue, hmem, signed, htrim, hlong⟩
      obtain rfl := Option.some.inj hmem
      exact ⟨_, Expression.read_eq_error_iff.mpr ⟨signed, htrim, hlong, rfl⟩⟩

def Header.IsOverlong (header : Header Char) : Prop :=
  ∃ inside, body? header.rest = .ok inside ∧ ∃ element ∈ caseElements inside, element.IsOverlong

theorem readDeclaration_numeral_iff {file : Option (List Char)} {line : Nat}
    {header : Header Char} :
    (∃ error, readDeclaration file line header = .error (.numeral error)) ↔ header.IsOverlong := by
  rw [Header.IsOverlong, readDeclaration]
  cases hbody : body? header.rest with
  | error fault => simp
  | ok inside =>
    have helements : (∃ error, (caseElements inside).mapM readElement = .error error) ↔
        ∃ element ∈ caseElements inside, element.IsOverlong := by
      simp only [exists_mapM_error_iff, readElement_eq_error_iff]
    constructor
    · rintro ⟨error, h⟩
      refine ⟨inside, rfl, helements.mp ?_⟩
      cases hm : (caseElements inside).mapM readElement with
      | error other => exact ⟨other, rfl⟩
      | ok cases => simp [hm] at h
    · rintro ⟨inside', hinside, h⟩
      obtain rfl := Except.ok.inj hinside
      obtain ⟨error, herror⟩ := helements.mpr h
      exact ⟨error, by simp [herror]⟩

def MeetsOverlongLiteral (marker source : List Char) : Prop :=
  ∃ before line header after, headers marker (glyphs source) = before ++ (line, header) :: after ∧
    (∀ read ∈ before, ∃ declaration, readDeclaration none read.1 read.2 = .ok declaration) ∧
      header.IsOverlong

theorem exists_readDeclaration_iff (file : Option (List Char)) (line : Nat)
    (header : Header Char) :
    (∃ declaration, readDeclaration file line header = .ok declaration) ↔
      ∃ declaration, readDeclaration none line header = .ok declaration := by
  simp only [readDeclaration]
  cases body? header.rest with
  | error fault => simp
  | ok inside => cases hm : (caseElements inside).mapM readElement <;> simp [hm]

theorem readSource_numeral_iff {marker : List Char} {file : Option (List Char)}
    {source : List Char} :
    (∃ error, readSource marker file source = .error (.numeral error)) ↔
      MeetsOverlongLiteral marker source := by
  simp only [readSource, mapM_eq_error_iff]
  constructor
  · rintro ⟨error, before, ⟨line, header⟩, after, hsplit, hbefore, hread⟩
    refine ⟨before, line, header, after, hsplit, ?_, readDeclaration_numeral_iff.mp ⟨error, hread⟩⟩
    exact fun read hmem => (exists_readDeclaration_iff file _ _).mp (hbefore read hmem)
  · rintro ⟨before, line, header, after, hsplit, hbefore, hlong⟩
    obtain ⟨error, hread⟩ := readDeclaration_numeral_iff.mpr hlong
    refine ⟨error, before, ⟨line, header⟩, after, hsplit, ?_, hread⟩
    exact fun read hmem => (exists_readDeclaration_iff file _ _).mpr (hbefore read hmem)

end EnumExport
