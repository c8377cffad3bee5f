import EnumExport.Proofs.Lists
import EnumExport.Source.Reader

namespace EnumExport

open Glyph

theorem exists_read_of_readElement {element : Element Char} {found : EnumCase}
    (h : readElement element = .ok found) :
    found.name = unquotedText element.name ∧
      ∀ value ∈ found.rawValue, ∃ raw ∈ element.rawValue,
        Expression.read (raw.map Glyph.source) = .ok value := by
  cases hraw : element.rawValue with
  | none =>
    obtain rfl : ⟨unquotedText element.name, none⟩ = found := by
      simpa [readElement, hraw, pure, Except.pure, bind, Except.bind] using h
    refine ⟨rfl, ?_⟩
    rintro value ⟨⟩
  | some raw =>
    cases hread : Expression.read (raw.map Glyph.source) with
    | error error =>
      simp [readElement, hraw, hread, bind, Except.bind, Functor.map, Except.map] at h
    | ok value =>
      obtain rfl : ⟨unquotedText element.name, some value⟩ = found := by
        simpa [readElement, hraw, hread, pure, Except.pure, bind, Except.bind, Functor.map,
          Except.map] using h
      refine ⟨rfl, ?_⟩
      rintro other ⟨⟩
      exact ⟨raw, rfl, hread⟩

theorem readDeclaration_eq_ok_iff {file : Option (List Char)} {line : Nat} {header : Header Char}
    {declaration : Declaration} :
    readDeclaration file line header = .ok declaration ↔
      ∃ inside cases, body? header.rest = .ok inside ∧
        (caseElements inside).mapM readElement = .ok cases ∧
        declaration = ⟨header.kind, unquotedText header.name, cases, file, some (line : Int)⟩ := by
  rw [readDeclaration]
  cases body? header.rest with
  | error fault => simp
  | ok inside =>
    cases hcases : (caseElements inside).mapM readElement with
    | error error => simp [hcases]
    | ok cases => simp [hcases, eq_comm]

theorem readDeclaration_eq_source_iff {file : Option (List Char)} {line : Nat}
    {header : Header Char} {error : SourceError} :
    readDeclaration file line header = .error (.source error) ↔
      ∃ fault, body? header.rest = .error fault ∧
        error = ⟨fault, text header.name, file, line⟩ := by
  rw [readDeclaration]
  cases body? header.rest with
  | error fault => simp [eq_comm]
  | ok inside =>
    cases hcases : (caseElements inside).mapM readElement <;> simp [hcases]

theorem asEnum?_of_readDeclaration {file other : Option (List Char)} {line : Nat}
    {header : Header Char} {declaration again : Declaration}
    (h : readDeclaration file line header = .ok declaration)
    (hagain : readDeclaration other line header = .ok again) :
    again.asEnum? = declaration.asEnum? := by
  obtain ⟨inside, cases, hinside, hcases, rfl⟩ := readDeclaration_eq_ok_iff.mp h
  obtain ⟨inside', cases', hinside', hcases', rfl⟩ := readDeclaration_eq_ok_iff.mp hagain
  obtain rfl := Except.ok.inj (hinside.symm.trans hinside')
  obtain rfl := Except.ok.inj (hcases.symm.trans hcases')
  rfl

theorem map_asEnum?_of_readSource {marker source : List Char} {file other : Option (List Char)}
    {declarations again : List Declaration} (h : readSource marker file source = .ok declarations)
    (hagain : readSource marker other source = .ok again) :
    again.map Declaration.asEnum? = declarations.map Declaration.asEnum? := by
  unfold readSource at h hagain
  rw [mapM_eq_ok_iff] at h hagain
  generalize headers marker (glyphs source) = found at h hagain
  induction h generalizing again with
  | nil =>
    cases hagain
    rfl
  | cons hfirst _ ih =>
    cases hagain with
    | cons hother hrest =>
      rw [List.map_cons, List.map_cons, asEnum?_of_readDeclaration hfirst hother, ih hrest]

end EnumExport
