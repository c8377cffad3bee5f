import EnumExport.Proofs.Agreement.Declarations
import EnumExport.Proofs.Printing.Frames
import EnumExport.Proofs.Reading.Blocks

namespace EnumExport

open Glyph

def onlyLines (text : List Char) : List Char := text.filter (· == '\n')

namespace Agrees

theorem append_left {loose veiled : Bool} {gs hs : List (Glyph Char)} (front : List (Glyph Char))
    (h : ∀ loose veiled, Agrees loose veiled gs hs) :
    Agrees loose veiled (front ++ gs) (front ++ hs) := by
  induction front generalizing loose veiled with
  | nil => exact h loose veiled
  | cons g front ih => exact .both rfl (fun _ => rfl) ih

theorem hidden_onlyLines (text : List Char) {gs hs : List (Glyph Char)}
    (h : Agrees true true gs hs) :
    Agrees true true (hidden text ++ gs) (hidden (onlyLines text) ++ hs) := by
  induction text with
  | nil => exact h
  | cons c text ih =>
    by_cases hline : c = '\n'
    · subst hline
      exact .both rfl (fun _ => rfl) ih
    · have hrest : onlyLines (c :: text) = onlyLines text := by simp [onlyLines, hline]
      rw [hrest, hidden_cons, if_neg hline]
      exact .wider (by rfl) (fun h => absurd h (by decide : ' ' ≠ '\n')) ih

end Agrees

theorem isSolid_append_block {front block back : List Char} (hfront : IsSolid front)
    (hblock : IsSolid block) (hback : IsSolid back) :
    IsSolid (front ++ '{' :: (block ++ '}' :: back)) := by
  simp only [IsSolid, List.forall_mem_append, List.forall_mem_cons]
  exact ⟨hfront, by decide, hblock, by decide, hback⟩

theorem closes_onlyLines (text : List Char) : Closes 0 (onlyLines text) := by
  induction text with
  | nil => exact .nil
  | cons c text ih =>
    by_cases hline : c = '\n'
    · subst hline
      exact .plain (by decide) (by decide) ih
    · have hrest : onlyLines (c :: text) = onlyLines text := by simp [onlyLines, hline]
      rwa [hrest]

theorem agrees_flatten_onlyLines {block : List Char} (h : Closes 0 block) (front back : List Char) :
    Agrees true true (flatten (solid (front ++ '{' :: (block ++ '}' :: back))))
      (flatten (solid (front ++ '{' :: (onlyLines block ++ '}' :: back)))) := by
  have hflatten {block : List Char} (h : Closes 0 block) :
      flatten (solid (front ++ '{' :: (block ++ '}' :: back))) =
        flattenAt 0 (solid front) ++ ⟨' ', '{'⟩ :: (hidden block ++ ⟨' ', '}'⟩ ::
          flattenAt (levelAfter 0 (solid front)) (solid back)) := by
    rw [flatten, solid_append, flattenAt_append]
    simp only [solid_cons, solid_append, flattenAt_block _ h]
  rw [hflatten h, hflatten (closes_onlyLines block)]
  apply Agrees.append_left
  intro loose veiled
  -- The opening brace is foreign to numbers, so no number takes in anything of the block.
  refine .both rfl (fun _ => rfl) ?_
  have hveiled : veilAfter veiled ⟨' ', '{'⟩ ⟨' ', '{'⟩ = true := by
    cases veiled <;> decide
  rw [hveiled]
  apply Agrees.hidden_onlyLines
  exact .both rfl (fun _ => rfl) (Agrees.refl _ _ _)

theorem caseOutlines_block {block block' : List Char} (h : Closes 0 block) (h' : Closes 0 block')
    (hlines : block.count '\n' = block'.count '\n') (front back : List Char) :
    caseOutlines (solid (front ++ '{' :: (block ++ '}' :: back))) =
      caseOutlines (solid (front ++ '{' :: (block' ++ '}' :: back))) := by
  have hsame : onlyLines block = onlyLines block' := by
    rw [onlyLines, onlyLines, List.filter_beq, List.filter_beq, hlines]
  rw [caseOutlines_eq (agrees_flatten_onlyLines h front back),
    caseOutlines_eq (agrees_flatten_onlyLines h' front back), hsame]

namespace Frame

variable (frame : Frame)

theorem unmarked_block {front block back : List Char}
    (hfront : Unmarked frame.marker.text (solid front))
    (hblock : Unmarked frame.marker.text (solid block))
    (hback : Unmarked frame.marker.text (solid back)) :
    Unmarked frame.marker.text (solid (front ++ '{' :: (block ++ '}' :: back))) := by
  simp only [solid_append, solid_cons]
  apply hfront.append (by decide)
  exact (hblock.append (by decide) (hback.cons (by decide))).cons (by decide)

def outline (file : Option (List Char)) (cases : List CaseOutline) : DeclarationOutline :=
  ⟨frame.header.kind, unquotedText frame.header.name, cases, file,
    some ((1 + frame.above.count '\n' : Nat) : Int)⟩

def outcome (file : Option (List Char)) (cases : Except NumeralError (List CaseOutline)) :
    Except ReadError (List DeclarationOutline) :=
  (cases.mapError .numeral).map fun cases => [frame.outline file cases]

theorem readOutlines_text (file : Option (List Char)) {body : List Char} (hsolid : IsSolid body)
    (hunmarked : Unmarked frame.marker.text (solid body)) (hcloses : Closes 0 body) :
    readOutlines frame.marker.text file (frame.text body) =
      frame.outcome file (caseOutlines (solid body)) := by
  rw [readOutlines, outcome, caseOutlines, frame.readSource_solid file hsolid hunmarked hcloses]
  cases (caseElements (solid body)).mapM readElement <;> rfl

end Frame

theorem nested_block_hidden (frame : Frame) (file : Option (List Char))
    {front block block' back : List Char}
    (hsolid : IsSolid front ∧ IsSolid block ∧ IsSolid block' ∧ IsSolid back)
    (hunmarked : Unmarked frame.marker.text (solid front) ∧
      Unmarked frame.marker.text (solid block) ∧ Unmarked frame.marker.text (solid block') ∧
      Unmarked frame.marker.text (solid back))
    (hblock : BraceBalanced block) (hblock' : BraceBalanced block')
    (hlines : block.count '\n' = block'.count '\n')
    (hbody : BraceBalanced (front ++ '{' :: (block ++ '}' :: back))) :
    ∃ cases : Except NumeralError (List CaseOutline),
      readOutlines frame.marker.text file (frame.text (front ++ '{' :: (block ++ '}' :: back))) =
          frame.outcome file cases ∧
        readOutlines frame.marker.text file (frame.text (front ++ '{' :: (block' ++ '}' :: back))) =
          frame.outcome file cases := by
  obtain ⟨hsolid_front, hsolid_block, hsolid_block', hsolid_back⟩ := hsolid
  obtain ⟨hfront, hunmarked_block, hunmarked_block', hback⟩ := hunmarked
  have hcloses := closes_of_braceCounts hblock
  have hcloses' := closes_of_braceCounts hblock'
  have hwhole := closes_of_braceCounts hbody
  refine ⟨caseOutlines (solid (front ++ '{' :: (block ++ '}' :: back))), ?_, ?_⟩
  · exact frame.readOutlines_text file (isSolid_append_block hsolid_front hsolid_block hsolid_back)
      (frame.unmarked_block hfront hunmarked_block hback) hwhole
  · rw [caseOutlines_block hcloses hcloses' hlines]
    exact frame.readOutlines_text file (isSolid_append_block hsolid_front hsolid_block' hsolid_back)
      (frame.unmarked_block hfront hunmarked_block' hback) (hcloses.exchange hcloses' hwhole)

theorem nested_block_hidden_sample :
    let front := "case a(x: ".toList
    let block := " var y: Int \x7b 7 \x7d\n case z ".toList
    let block' := ")], = 1\n;".toList
    let back := "), b = 0x10 \x7b \x7d c\ncase d = -1".toList
    let cases : Except NumeralError (List CaseOutline) :=
      .ok [⟨"a".toList, none⟩, ⟨"b".toList, some none⟩, ⟨"d".toList, some (some (-1))⟩]
    block.count '\n' = block'.count '\n' ∧
      readOutlines "A".toList none
          (sampleFrame.text (front ++ '{' :: (block ++ '}' :: back))) =
        sampleFrame.outcome none cases ∧
      readOutlines "A".toList none
          (sampleFrame.text (front ++ '{' :: (block' ++ '}' :: back))) =
        sampleFrame.outcome none cases := by
  intro front block block' back cases
  have hsolid : IsSolid front ∧ IsSolid block ∧ IsSolid block' ∧ IsSolid back := by
    unfold IsSolid
    decide
  obtain ⟨found, hread, hread'⟩ := nested_block_hidden sampleFrame none hsolid
    (by decide) (by decide) (by decide) (by decide) (by decide)
  have hcases : readOutlines "A".toList none
      (sampleFrame.text (front ++ '{' :: (block ++ '}' :: back))) =
        sampleFrame.outcome none cases := by decide +kernel
  refine ⟨by decide, hcases, ?_⟩
  rw [← hcases]
  exact hread'.trans hread.symm

end EnumExport
