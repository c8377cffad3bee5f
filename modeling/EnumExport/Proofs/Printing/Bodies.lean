import EnumExport.Proofs.Printing.Cases

namespace EnumExport

open Glyph

theorem afterCase?_caseWord {lead rest : List (Glyph Char)} (hlead : ShowsBlank lead)
    (hrest : ∀ g ∈ rest.head?, Glyph.isWord g = false) :
    afterCase? (lead ++ (solid caseWord ++ rest)) = some rest := by
  have hskip : skipBlanks (lead ++ (solid caseWord ++ rest)) =
      ⟨'c', 'c'⟩ :: (solid "ase".toList ++ rest) := by
    rw [skipBlanks_append_of_showsBlank hlead]
    rfl
  have hcons : ⟨'c', 'c'⟩ :: (solid "ase".toList ++ rest) = solid caseWord ++ rest := rfl
  have hword : ∀ g ∈ solid caseWord, Glyph.isWord g = true := by decide
  have hleading : leadingWord (solid caseWord ++ rest) = caseWord := by
    rw [leadingWord, takeWhile_append_of_stop hword hrest, text_solid]
  have hafter : afterWord (solid caseWord ++ rest) = rest := dropWhile_append_of_stop hword hrest
  rw [afterCase?_of_skipBlanks hskip, if_neg (by decide), hcons, afterCaseWord?, hleading, hafter,
    if_pos rfl]

theorem afterCase?_statement (statement : PrintedStatement) {lead : List (Glyph Char)}
    (hlead : ShowsBlank lead) (trail : List (Glyph Char)) :
    afterCase? (lead ++ (solid statement.text ++ trail)) =
      some (solid statement.afterKeyword ++ trail) := by
  have hstop : ∀ g ∈ (solid statement.afterKeyword ++ trail).head?, Glyph.isWord g = false := by
    intro g hg
    obtain rfl := Option.some.inj hg
    decide
  rw [PrintedStatement.text, solid_append, List.append_assoc]
  exact afterCase?_caseWord hlead hstop

theorem startsWithJoint_reverse {text : List Char} (h : EndsFirmly text)
    (before : List (Glyph Char)) :
    startsWithJoint ((solid text).reverse ++ before) = false := by
  obtain ⟨front, c, rfl, hblank, hjoint⟩ := h
  have hreverse : (solid (front ++ [c])).reverse ++ before =
      ⟨c, c⟩ :: ((solid front).reverse ++ before) := by simp
  rw [hreverse, startsWithJoint_of_not_isBlank hblank, hjoint]

theorem exists_caseClauses_statement (statement : PrintedStatement) (gap : Gap)
    {before rest : List (Glyph Char)} (hbefore : ShowsBlank before)
    (hrest : startsWithJoint rest = false)
    (hends : rest = [] ∨ ∃ c ∈ gap.val, endsStatement c = true) :
    ∃ trail blanks, AllBlank trail ∧ ShowsBlank blanks ∧
      caseClauses (statementDivision.partsFrom 0 before
          (solid statement.text ++ (solid gap.val ++ rest))) =
        (solid statement.afterKeyword ++ trail) ::
          caseClauses (statementDivision.partsFrom 0 blanks rest) := by
  have hjoint := startsWithJoint_reverse statement.endsFirmly_text before
  have hsolid : rest = [] ∨ ∃ g ∈ solid gap.val, endsStatement g.shown = true := by
    apply hends.imp_right
    rintro ⟨c, hc, he⟩
    exact ⟨⟨c, c⟩, List.mem_map_of_mem hc, he⟩
  obtain ⟨blanks, hblanks, he⟩ :=
    exists_caseClauses_of_gap (showsGap_solid gap) hjoint hrest hsolid
  have htrail : AllBlank (beforeEnd (solid gap.val)) :=
    allBlank_of_solid (showsBlank_beforeEnd (showsGap_solid gap)) (List.takeWhile_prefix _)
  refine ⟨beforeEnd (solid gap.val), blanks, htrail, hblanks, ?_⟩
  rw [Division.passes_statement, he, List.reverse_append, List.reverse_reverse, List.append_assoc,
    afterCase?_statement statement hbefore.reverse]
  rfl

def IsClauseOf (clause : List (Glyph Char)) (statement : PrintedStatement) : Prop :=
  ∃ trail, AllBlank trail ∧ clause = solid statement.afterKeyword ++ trail

namespace PrintedBody

theorem startsWithJoint_statement (statement : PrintedStatement) (rest : List (Glyph Char)) :
    startsWithJoint (solid statement.text ++ rest) = false := rfl

theorem startsWithJoint_text (body : PrintedBody) : startsWithJoint (solid body.text) = false := by
  cases body with
  | blank gap =>
    have h := startsWithJoint_gap (showsGap_solid gap) startsWithJoint_nil
    rwa [List.append_nil] at h
  | last before statement after =>
    rw [text, solid_append, solid_append]
    exact startsWithJoint_gap (showsGap_solid before) (startsWithJoint_statement _ _)
  | more before statement after separator rest =>
    rw [text, solid_append, solid_append]
    exact startsWithJoint_gap (showsGap_solid before) (startsWithJoint_statement _ _)

theorem caseClauses_nil {blanks : List (Glyph Char)} (h : ShowsBlank blanks) :
    caseClauses (statementDivision.partsFrom 0 blanks []) = [] := by
  have hnone := afterCase?_of_showsBlank h.reverse
  rw [Division.partsFrom, caseClauses, List.filterMap_cons_none hnone, List.filterMap_nil]

theorem forall₂_caseClauses (body : PrintedBody) {before : List (Glyph Char)}
    (hbefore : ShowsBlank before) :
    List.Forall₂ IsClauseOf
      (caseClauses (statementDivision.partsFrom 0 before (solid body.text))) body.statements := by
  induction body generalizing before with
  | blank gap =>
    obtain ⟨blanks, hblanks, he⟩ :=
      exists_caseClauses_gap (showsGap_solid gap) hbefore startsWithJoint_nil
    rw [List.append_nil] at he
    rw [text, he, caseClauses_nil hblanks]
    exact .nil
  | last lead statement after =>
    obtain ⟨blanks, hblanks, hlead⟩ :=
      exists_caseClauses_gap (showsGap_solid lead) hbefore
        (startsWithJoint_statement statement (solid after.val))
    obtain ⟨trail, left, htrail, hleft, he⟩ :=
      @exists_caseClauses_statement statement after blanks [] hblanks rfl (Or.inl rfl)
    rw [List.append_nil] at he
    rw [text, solid_append, solid_append, hlead, he, caseClauses_nil hleft]
    exact .cons ⟨trail, htrail, rfl⟩ .nil
  | more lead statement after separator rest ih =>
    -- The separator is the end of the gap that the statement needs.
    have hgap : ∀ c ∈ after.val ++ [separator.val],
        isSpacing c = true ∨ endsStatement c = true := by
      intro c hc
      rcases List.mem_append.mp hc with hc | hc
      · exact after.property c hc
      · rw [List.mem_singleton.mp hc]
        exact Or.inr separator.property
    obtain ⟨blanks, hblanks, hlead⟩ := exists_caseClauses_gap (showsGap_solid lead) hbefore
      (startsWithJoint_statement statement (solid (after.val ++ separator.val :: rest.text)))
    obtain ⟨trail, left, htrail, hleft, he⟩ :=
      exists_caseClauses_statement statement ⟨after.val ++ [separator.val], hgap⟩ hblanks
        rest.startsWithJoint_text (Or.inr ⟨separator.val, by simp, separator.property⟩)
    have htext : solid (after.val ++ separator.val :: rest.text) =
        solid (after.val ++ [separator.val]) ++ solid rest.text := by simp
    rw [text, solid_append, solid_append, hlead, htext, he]
    exact .cons ⟨trail, htrail, rfl⟩ (ih hleft)

end PrintedBody

theorem flattenAt_append_of_forall {gs : List (Glyph Char)}
    (h : ∀ g ∈ gs, g.shown ≠ '{' ∧ g.shown ≠ '}') (rest : List (Glyph Char)) :
    flattenAt 0 (gs ++ rest) = gs ++ flattenAt 0 rest := by
  induction gs with
  | nil => rfl
  | cons g gs ih =>
    obtain ⟨hopen, hclose⟩ := h g (List.mem_cons_self ..)
    simp [flattenAt, hopen, hclose, ih fun d hd => h d (List.mem_cons_of_mem _ hd)]

theorem flatten_of_forall {gs : List (Glyph Char)}
    (h : ∀ g ∈ gs, g.shown ≠ '{' ∧ g.shown ≠ '}') : flatten gs = gs := by
  have hat := flattenAt_append_of_forall h []
  rwa [List.append_nil, flattenAt, List.append_nil] at hat

theorem blockInside?_of_forall {inside : List (Glyph Char)}
    (h : ∀ g ∈ inside, g.shown ≠ '{' ∧ g.shown ≠ '}') (after : List (Glyph Char)) :
    blockInside? 0 (inside ++ ⟨'}', '}'⟩ :: after) = some (inside, after) := by
  induction inside with
  | nil => simp [blockInside?]
  | cons g inside ih =>
    obtain ⟨hopen, hclose⟩ := h g (List.mem_cons_self ..)
    simp [blockInside?, hopen, hclose, ih fun d hd => h d (List.mem_cons_of_mem _ hd)]

theorem shown_of_holdsNoStop {text : List Char} (h : HoldsNoStop text) :
    ∀ g ∈ solid text, g.shown ≠ '{' ∧ g.shown ≠ '}' :=
  fun g hg =>
    ⟨shown_ne_of_holdsNoStop h (by decide) g hg, shown_ne_of_holdsNoStop h (by decide) g hg⟩

theorem mapM_readElement_clauses {clauses : List (List (Glyph Char))}
    {statements : List PrintedStatement} (h : List.Forall₂ IsClauseOf clauses statements) :
    (clauses.flatMap fun clause => (elements clause).filterMap element?).mapM readElement =
      .ok ((statements.flatMap PrintedStatement.cases).map PrintedCase.meaning) := by
  rw [List.map_flatMap]
  apply mapM_flatMap_ok
  apply h.imp
  rintro clause statement ⟨trail, htrail, rfl⟩
  exact statement.mapM_readElement htrail

theorem PrintedBody.shown_text (body : PrintedBody) :
    ∀ g ∈ solid body.text, g.shown ≠ '{' ∧ g.shown ≠ '}' :=
  shown_of_holdsNoStop body.holdsNoStop_text

theorem PrintedBody.mapM_caseElements (body : PrintedBody) :
    (caseElements (solid body.text)).mapM readElement =
      .ok (body.cases.map PrintedCase.meaning) := by
  have hclauses := mapM_readElement_clauses (body.forall₂_caseClauses (List.forall_mem_nil _))
  rw [caseElements, flatten_of_forall body.shown_text, statements_eq]
  exact hclauses

end EnumExport
