import EnumExport.Proofs.Printing.Division

namespace EnumExport

open Glyph

def statementDivision : Division := ⟨endsStatement, true⟩

theorem statements_eq (block : List (Glyph Char)) :
    statements block = statementDivision.parts block := rfl

def ShowsBlank (gs : List (Glyph Char)) : Prop := ∀ g ∈ gs, isBlank g.shown = true

theorem ShowsBlank.reverse {gs : List (Glyph Char)} (h : ShowsBlank gs) : ShowsBlank gs.reverse :=
  fun g hg => h g (List.mem_reverse.mp hg)

theorem ShowsBlank.append {gs hs : List (Glyph Char)} (h : ShowsBlank gs) (hhs : ShowsBlank hs) :
    ShowsBlank (gs ++ hs) := List.forall_mem_append.mpr ⟨h, hhs⟩

theorem showsBlank_solid (spacing : Spacing) : ShowsBlank (solid spacing.val) := by
  intro g hg
  obtain ⟨c, hc, rfl⟩ := List.mem_map.mp hg
  exact isBlank_of_isSpacing (spacing.property c hc)

theorem showsBlank_hidden (text : List Char) : ShowsBlank (hidden text) := by
  intro g hg
  obtain ⟨c, -, rfl⟩ := List.mem_map.mp hg
  by_cases hline : c = '\n'
  · simp only [hline, if_true]
    decide
  · simp only [hline, if_false]
    decide

theorem skipBlanks_append_of_showsBlank {gs : List (Glyph Char)} (h : ShowsBlank gs)
    (rest : List (Glyph Char)) : skipBlanks (gs ++ rest) = skipBlanks rest :=
  List.dropWhile_append_of_pos h

theorem skipBlanks_of_showsBlank {gs : List (Glyph Char)} (h : ShowsBlank gs) :
    skipBlanks gs = [] :=
  List.dropWhile_eq_nil_iff.mpr h

theorem startsWithJoint_of_showsBlank {gs : List (Glyph Char)} (h : ShowsBlank gs) :
    startsWithJoint gs = false := by
  rw [startsWithJoint, skipBlanks_of_showsBlank h]

theorem startsWithJoint_append_of_showsBlank {gs : List (Glyph Char)} (h : ShowsBlank gs)
    (rest : List (Glyph Char)) : startsWithJoint (gs ++ rest) = startsWithJoint rest := by
  rw [startsWithJoint, skipBlanks_append_of_showsBlank h, startsWithJoint]

namespace Division

theorem isCoarse_statementDivision : statementDivision.IsCoarse := by
  intro c hc
  simp only [statementDivision, endsStatement, Bool.or_eq_true, beq_iff_eq] at hc
  rcases hc with rfl | rfl <;> decide

theorem isPlain_of_isBlank {division : Division} (hdivision : division.IsCoarse) {c : Char}
    (hblank : isBlank c = true) (hline : c ≠ '\n') : division.IsPlain c := by
  have hnot : ∀ d ∈ ['(', '[', ')', ']', ';', ','], isBlank d = false := by decide
  apply isPlain_of_not_mem hdivision
  intro hc
  by_cases hmem : c ∈ ['(', '[', ')', ']', ';', ',']
  · exact absurd hblank (by rw [hnot c hmem]; decide)
  · simp_all

theorem partsFrom_of_not_endsStatement {g : Glyph Char} (hblank : isBlank g.shown = true)
    (hends : ¬ endsStatement g.shown = true) (before rest : List (Glyph Char)) :
    statementDivision.partsFrom 0 before (g :: rest) =
      statementDivision.partsFrom 0 (g :: before) rest := by
  have hline : g.shown ≠ '\n' := by
    intro hline
    exact hends (by rw [hline]; decide)
  have hplain := isPlain_of_isBlank isCoarse_statementDivision hblank hline
  exact partsFrom_of_isPlain hplain 0 before rest

theorem opensGroup_of_endsStatement {c : Char} (h : endsStatement c = true) :
    opensGroup c = false ∧ closesGroup c = false := by
  simp only [endsStatement, Bool.or_eq_true, beq_iff_eq] at h
  rcases h with rfl | rfl <;> decide

theorem partsFrom_of_endsStatement {g : Glyph Char} {before rest : List (Glyph Char)}
    (h : endsStatement g.shown = true) (hbefore : startsWithJoint before = false)
    (hrest : startsWithJoint rest = false) :
    statementDivision.partsFrom 0 before (g :: rest) =
      before.reverse :: statementDivision.partsFrom 0 [] rest := by
  obtain ⟨hopens, hcloses⟩ := opensGroup_of_endsStatement h
  have hseparates : statementDivision.separatesAt before g rest = true := by
    simp [separatesAt, statementDivision, h, continues, hbefore, hrest]
  simp [partsFrom, hopens, hcloses, hseparates]

theorem partsFrom_of_continues {g : Glyph Char} {before rest : List (Glyph Char)}
    (h : isBlank g.shown = true) (hjoint : continues before rest = true) :
    statementDivision.partsFrom 0 before (g :: rest) =
      statementDivision.partsFrom 0 (g :: before) rest := by
  by_cases hends : endsStatement g.shown = true
  · obtain ⟨hopens, hcloses⟩ := opensGroup_of_endsStatement hends
    have hline : g.shown = '\n' := by
      simp only [endsStatement, Bool.or_eq_true, beq_iff_eq] at hends
      apply hends.resolve_left
      intro hs
      rw [hs] at h
      exact absurd h (by decide)
    have hseparates : statementDivision.separatesAt before g rest = false := by
      simp [separatesAt, statementDivision, hline, hjoint]
    simp [partsFrom, hopens, hcloses, hseparates]
  · exact partsFrom_of_not_endsStatement h hends before rest

theorem partsFrom_beforeJoint {blanks before rest : List (Glyph Char)} (h : ShowsBlank blanks)
    (hrest : startsWithJoint rest = true) :
    statementDivision.partsFrom 0 before (blanks ++ rest) =
      statementDivision.partsFrom 0 (blanks.reverse ++ before) rest := by
  induction blanks generalizing before with
  | nil => rfl
  | cons g blanks ih =>
    obtain ⟨hg, hblanks⟩ := List.forall_mem_cons.mp h
    have hjoint : continues before (blanks ++ rest) = true := by
      rw [continues, startsWithJoint_append_of_showsBlank hblanks, hrest, Bool.or_true]
    rw [List.cons_append, partsFrom_of_continues hg hjoint, ih hblanks]
    simp

theorem partsFrom_afterJoint {blanks before : List (Glyph Char)} (h : ShowsBlank blanks)
    (hbefore : startsWithJoint before = true) (rest : List (Glyph Char)) :
    statementDivision.partsFrom 0 before (blanks ++ rest) =
      statementDivision.partsFrom 0 (blanks.reverse ++ before) rest := by
  induction blanks generalizing before with
  | nil => rfl
  | cons g blanks ih =>
    obtain ⟨hg, hblanks⟩ := List.forall_mem_cons.mp h
    have hnext : startsWithJoint (g :: before) = true := by
      rw [startsWithJoint_of_isBlank hg, hbefore]
    have hjoint : continues before (blanks ++ rest) = true := by
      rw [continues, hbefore, Bool.true_or]
    rw [List.cons_append, partsFrom_of_continues hg hjoint, ih hblanks hnext]
    simp

theorem passes_joint (joint : Joint) {mark : Char} (h : isJoint mark = true) :
    statementDivision.Passes (joint.text mark) := by
  intro before rest
  have hmark : isBlank mark = false ∧ statementDivision.IsPlain mark := by
    simp only [isJoint, Bool.or_eq_true, beq_iff_eq] at h
    rcases h with rfl | rfl
    · exact ⟨by decide, by decide, by decide, by decide⟩
    · exact ⟨by decide, by decide, by decide, by decide⟩
  have hstarts (gs : List (Glyph Char)) : startsWithJoint (⟨mark, mark⟩ :: gs) = true := by
    rw [startsWithJoint_of_not_isBlank hmark.1, h]
  rw [Joint.text, solid_append, solid_cons, List.append_assoc, List.cons_append,
    partsFrom_beforeJoint (showsBlank_solid joint.before) (hstarts _),
    partsFrom_of_isPlain hmark.2, partsFrom_afterJoint (showsBlank_solid joint.after) (hstarts _)]
  simp

theorem passes_moreText (more : List (Joint × PrintedCase)) :
    statementDivision.Passes (PrintedStatement.moreText more) := by
  induction more with
  | nil => exact fun _ _ => rfl
  | cons next more ih =>
    apply Passes.append _ ih
    apply (passes_joint next.1 rfl).append
    exact passes_case isCoarse_statementDivision (fun joint => passes_joint joint rfl) next.2

theorem passes_spaces (n : Nat) : statementDivision.Passes (' ' :: List.replicate n ' ') := by
  apply passes_of_isPlain
  intro c hc
  rw [List.eq_of_mem_replicate (n := n + 1) hc]
  exact ⟨by decide, by decide, by decide⟩

theorem passes_caseWord : statementDivision.Passes caseWord :=
  passes_of_isPlain fun c hc => isPlain_of_isWord isCoarse_statementDivision
    ((by decide : ∀ c ∈ caseWord, isWord c = true) c hc)

theorem passes_statement (statement : PrintedStatement) :
    statementDivision.Passes statement.text := by
  apply passes_caseWord.append
  apply (passes_spaces statement.moreSpaces).append
  apply Passes.append _ (passes_moreText statement.more)
  exact passes_case isCoarse_statementDivision (fun joint => passes_joint joint rfl) statement.first

end Division

def AllBlank (gs : List (Glyph Char)) : Prop :=
  ∀ g ∈ gs, isBlank g.shown = true ∧ g.source = g.shown

theorem AllBlank.showsBlank {gs : List (Glyph Char)} (h : AllBlank gs) : ShowsBlank gs :=
  fun g hg => (h g hg).1

theorem AllBlank.isBlank_source {gs : List (Glyph Char)} (h : AllBlank gs) :
    ∀ c ∈ gs.map Glyph.source, isBlank c = true := by
  intro c hc
  obtain ⟨g, hg, rfl⟩ := List.mem_map.mp hc
  rw [(h g hg).2]
  exact (h g hg).1

theorem allBlank_solid {text : List Char} (h : ∀ c ∈ text, isSpacing c = true) :
    AllBlank (solid text) := by
  intro g hg
  obtain ⟨c, hc, rfl⟩ := List.mem_map.mp hg
  exact ⟨isBlank_of_isSpacing (h c hc), rfl⟩

theorem allBlank_spaces (n : Nat) : AllBlank (solid (' ' :: List.replicate n ' ')) :=
  allBlank_solid fun _ hc => isSpacing_of_mem_spaces hc

theorem allBlank_of_solid {text : List Char} {gs : List (Glyph Char)} (h : ShowsBlank gs)
    (hgs : gs <+: solid text) : AllBlank gs := by
  intro g hg
  obtain ⟨c, -, rfl⟩ := List.mem_map.mp (hgs.subset hg)
  exact ⟨h _ hg, rfl⟩

theorem afterCase?_of_showsBlank {gs : List (Glyph Char)} (h : ShowsBlank gs) :
    afterCase? gs = none := afterCase?_eq_none (skipBlanks_of_showsBlank h)

def ShowsGap (gs : List (Glyph Char)) : Prop :=
  ∀ g ∈ gs, isBlank g.shown = true ∨ endsStatement g.shown = true

theorem ShowsBlank.showsGap {gs : List (Glyph Char)} (h : ShowsBlank gs) : ShowsGap gs :=
  fun g hg => Or.inl (h g hg)

theorem showsGap_solid (gap : Gap) : ShowsGap (solid gap.val) := by
  intro g hg
  obtain ⟨c, hc, rfl⟩ := List.mem_map.mp hg
  exact (gap.property c hc).imp_left isBlank_of_isSpacing

theorem startsWithJoint_gap {gap rest : List (Glyph Char)} (hgap : ShowsGap gap)
    (h : startsWithJoint rest = false) : startsWithJoint (gap ++ rest) = false := by
  induction gap with
  | nil => exact h
  | cons g gap ih =>
    rw [List.cons_append]
    by_cases hblank : isBlank g.shown = true
    · rw [startsWithJoint_of_isBlank hblank]
      exact ih fun d hd => hgap d (List.mem_cons_of_mem _ hd)
    · rw [startsWithJoint_of_not_isBlank (by simpa using hblank)]
      have hends := (hgap g (List.mem_cons_self ..)).resolve_left hblank
      simp only [endsStatement, Bool.or_eq_true, beq_iff_eq] at hends
      rcases hends with hends | hends <;> rw [hends] <;> rfl

def caseClauses (parts : List (List (Glyph Char))) : List (List (Glyph Char)) :=
  parts.filterMap afterCase?

theorem exists_caseClauses_gap {gap before rest : List (Glyph Char)} (hgap : ShowsGap gap)
    (hbefore : ShowsBlank before) (hrest : startsWithJoint rest = false) :
    ∃ blanks, ShowsBlank blanks ∧
      caseClauses (statementDivision.partsFrom 0 before (gap ++ rest)) =
        caseClauses (statementDivision.partsFrom 0 blanks rest) := by
  induction gap generalizing before with
  | nil => exact ⟨before, hbefore, rfl⟩
  | cons g gap ih =>
    have hmore : ShowsGap gap := fun d hd => hgap d (List.mem_cons_of_mem _ hd)
    rw [List.cons_append]
    by_cases hends : endsStatement g.shown = true
    · have hafter := startsWithJoint_gap hmore hrest
      rw [Division.partsFrom_of_endsStatement hends (startsWithJoint_of_showsBlank hbefore) hafter]
      rw [caseClauses, List.filterMap_cons_none (afterCase?_of_showsBlank hbefore.reverse)]
      exact ih hmore (List.forall_mem_nil _)
    · have hblank := (hgap g (List.mem_cons_self ..)).resolve_right hends
      rw [Division.partsFrom_of_not_endsStatement hblank hends]
      exact ih hmore (List.forall_mem_cons.mpr ⟨hblank, hbefore⟩)

def beforeEnd (gap : List (Glyph Char)) : List (Glyph Char) :=
  gap.takeWhile fun g => !endsStatement g.shown

theorem prefix_beforeEnd (gap : List (Glyph Char)) : beforeEnd gap <+: gap :=
  List.takeWhile_prefix _

theorem showsBlank_beforeEnd {gap : List (Glyph Char)} (h : ShowsGap gap) :
    ShowsBlank (beforeEnd gap) := by
  intro g hg
  have hends := List.mem_takeWhile_imp hg
  exact (h g ((List.takeWhile_prefix _).subset hg)).resolve_right (by simpa using hends)

theorem exists_caseClauses_of_gap {gap before rest : List (Glyph Char)} (hgap : ShowsGap gap)
    (hbefore : startsWithJoint before = false) (hrest : startsWithJoint rest = false)
    (hends : rest = [] ∨ ∃ g ∈ gap, endsStatement g.shown = true) :
    ∃ blanks, ShowsBlank blanks ∧
      caseClauses (statementDivision.partsFrom 0 before (gap ++ rest)) =
        (afterCase? (before.reverse ++ beforeEnd gap)).toList ++
          caseClauses (statementDivision.partsFrom 0 blanks rest) := by
  induction gap generalizing before with
  | nil =>
    obtain rfl : rest = [] := hends.resolve_right (by simp)
    have hblanks : afterCase? ([] : List (Glyph Char)) = none :=
      afterCase?_of_showsBlank (List.forall_mem_nil _)
    refine ⟨[], List.forall_mem_nil _, ?_⟩
    cases hc : afterCase? before.reverse <;>
      simp [caseClauses, Division.partsFrom, beforeEnd, hblanks, hc]
  | cons g gap ih =>
    have hmore : ShowsGap gap := fun d hd => hgap d (List.mem_cons_of_mem _ hd)
    rw [List.cons_append]
    by_cases hg : endsStatement g.shown = true
    -- The first end in the gap ends the statement, and the rest of the gap comes before the next.
    · have hafter := startsWithJoint_gap hmore hrest
      obtain ⟨blanks, hblanks, he⟩ := exists_caseClauses_gap hmore (List.forall_mem_nil _) hrest
      have hnone : beforeEnd (g :: gap) = [] := by simp [beforeEnd, hg]
      refine ⟨blanks, hblanks, ?_⟩
      rw [Division.partsFrom_of_endsStatement hg hbefore hafter, hnone, List.append_nil, ← he]
      cases hcase : afterCase? before.reverse <;> simp [caseClauses, hcase]
    · have hblank := (hgap g (List.mem_cons_self ..)).resolve_right hg
      have hnext : startsWithJoint (g :: before) = false := by
        rw [startsWithJoint_of_isBlank hblank, hbefore]
      have hlater : rest = [] ∨ ∃ d ∈ gap, endsStatement d.shown = true := by
        apply hends.imp_right
        rintro ⟨d, hd, he⟩
        rcases List.mem_cons.mp hd with rfl | hd
        · exact absurd he hg
        · exact ⟨d, hd, he⟩
      obtain ⟨blanks, hblanks, he⟩ := ih hmore hnext hlater
      have hkept : beforeEnd (g :: gap) = g :: beforeEnd gap := by simp [beforeEnd, hg]
      refine ⟨blanks, hblanks, ?_⟩
      rw [Division.partsFrom_of_not_endsStatement hblank hg, he, hkept]
      simp

end EnumExport
