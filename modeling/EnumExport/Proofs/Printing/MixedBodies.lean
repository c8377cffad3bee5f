import EnumExport.Proofs.Printing.Lines
import EnumExport.Proofs.Printing.Members
import Mathlib.Algebra.Order.BigOperators.Group.List
import Mathlib.Data.List.Chain

namespace EnumExport

open Glyph

/-- Text without quotes, slashes and attributes that closes all blocks it opens. -/
structure IsEnclosed (text : List Char) : Prop where
  isSolid : IsSolid text
  not_mem_at : '@' ∉ text
  closes : Closes 0 text

namespace IsEnclosed

theorem append {text more : List Char} (h : IsEnclosed text) (hmore : IsEnclosed more) :
    IsEnclosed (text ++ more) where
  isSolid := List.forall_mem_append.mpr ⟨h.isSolid, hmore.isSolid⟩
  not_mem_at := by
    rw [List.mem_append, not_or]
    exact ⟨h.not_mem_at, hmore.not_mem_at⟩
  closes := h.closes.append hmore.closes

theorem of_holdsNoStop {text : List Char} (h : HoldsNoStop text) : IsEnclosed text := by
  have hne (c : Char) (hc : isStop c = true) : c ∉ text :=
    fun hmem => ne_of_isStop (h c hmem) hc rfl
  exact ⟨isSolid_of_holdsNoStop h, hne '@' (by decide),
    closes_of_not_mem (hne '{' (by decide)) (hne '}' (by decide))⟩

theorem unmarked {marker text : List Char} (h : IsEnclosed text) :
    Unmarked marker (solid text) := by
  apply Unmarked.of_forall
  intro g hg hat
  obtain ⟨c, hc, rfl⟩ := List.mem_map.mp hg
  exact h.not_mem_at (hat ▸ hc)

end IsEnclosed

namespace BodyStatement

def printed (statements : List BodyStatement) : List PrintedStatement :=
  statements.filterMap printed?

def kept (takenIn : Bool) (statements : List BodyStatement) : List PrintedStatement :=
  listedFrom endsInJoint (·.printed?.toList) takenIn statements

theorem kept_nil (takenIn : Bool) : kept takenIn [] = [] := rfl

theorem kept_cons (takenIn : Bool) (statement : BodyStatement) (rest : List BodyStatement) :
    kept takenIn (statement :: rest) =
      (if takenIn then [] else statement.printed?.toList) ++ kept statement.endsInJoint rest := rfl

def meanings (statements : List PrintedStatement) : List EnumCase :=
  (statements.flatMap PrintedStatement.cases).map PrintedCase.meaning

variable (statement : BodyStatement)

theorem reverse_append_core (before rest : List (Glyph Char)) :
    ((solid statement.core).reverse ++ before).reverse ++ rest =
      before.reverse ++ (solid statement.core ++ rest) := by simp

theorem forall₂_afterCase? {takenIn : Bool} {before : List (Glyph Char)}
    (hbegins : Begins takenIn before) (spacing : Spacing) :
    List.Forall₂ IsClauseOf
      (afterCase? (((solid statement.core).reverse ++ before).reverse ++
        beforeEnd (statement.remains ++ solid spacing.val))).toList
      (if takenIn then [] else statement.printed?.toList) := by
  rw [reverse_append_core]
  cases takenIn with
  | true =>
    rw [hbegins.2]
    exact .nil
  | false =>
    have hgap := (showsBlank_solid spacing).showsGap
    cases statement with
    | listing printed =>
      have htrail : AllBlank (beforeEnd (solid spacing.val)) :=
        allBlank_of_solid (showsBlank_beforeEnd hgap) (List.takeWhile_prefix _)
      rw [core, remains, List.nil_append, afterCase?_statement printed (ShowsBlank.reverse hbegins)]
      exact .cons ⟨_, htrail, rfl⟩ .nil
    | aside member =>
      have hblank : ShowsBlank (beforeEnd (member.remains ++ solid spacing.val)) := by
        apply showsBlank_beforeEnd
        exact (member.showsBlank_remains.append (showsBlank_solid spacing)).showsGap
      have hstop : ∀ g ∈ (beforeEnd (member.remains ++ solid spacing.val)).head?,
          Glyph.isWord g = false :=
        fun g hg => isWord_of_isBlank (hblank g (List.mem_of_mem_head? hg))
      rw [core, remains, member.afterCase?_head (ShowsBlank.reverse hbegins) hstop]
      exact .nil

theorem begins_of_endsInJoint {takenIn : Bool} {before : List (Glyph Char)}
    (hbegins : Begins takenIn before) (hjoint : statement.endsInJoint = true) (spacing : Spacing) :
    Begins true ((statement.remains ++ solid spacing.val).reverse ++
      ((solid statement.core).reverse ++ before)) := by
  have hblank := statement.showsBlank_remains.append (showsBlank_solid spacing)
  constructor
  · rw [startsWithJoint_append_of_showsBlank hblank.reverse, startsWithJoint_reverse_core, hjoint]
  · intro rest
    have hsplit : ((statement.remains ++ solid spacing.val).reverse ++
        ((solid statement.core).reverse ++ before)).reverse ++ rest =
        before.reverse ++
          (solid statement.core ++ (statement.remains ++ (solid spacing.val ++ rest))) := by simp
    rw [hsplit]
    cases takenIn with
    | true => exact hbegins.2 _
    | false =>
      cases statement with
      | listing printed => simp [endsInJoint] at hjoint
      | aside member =>
        apply member.afterCase?_head (ShowsBlank.reverse hbegins)
        intro g hg
        obtain rfl := Option.some.inj hg
        decide

theorem exists_caseClauses_statement {takenIn : Bool} {before : List (Glyph Char)}
    (hbegins : Begins takenIn before) (spacing : Spacing) {rest : List (Glyph Char)}
    (hrest : startsWithJoint rest = false) (hends : rest = [] ∨ '\n' ∈ spacing.val) :
    ∃ clauses after, Begins statement.endsInJoint after ∧
      List.Forall₂ IsClauseOf clauses (if takenIn then [] else statement.printed?.toList) ∧
      caseClauses (statementDivision.partsFrom 0 before
          (solid statement.core ++ (statement.remains ++ (solid spacing.val ++ rest)))) =
        clauses ++ caseClauses (statementDivision.partsFrom 0 after rest) := by
  have hblank := statement.showsBlank_remains.append (showsBlank_solid spacing)
  have hcore := statement.startsWithJoint_reverse_core before
  rw [statement.passes_core, ← List.append_assoc]
  cases hjoint : statement.endsInJoint with
  | true =>
    -- The gap joins the statement to the next one, which then lists no cases.
    have hnone : (if takenIn then [] else statement.printed?.toList) = [] := by
      cases statement with
      | listing printed => simp [endsInJoint] at hjoint
      | aside member => simp [printed?]
    refine ⟨[], _, statement.begins_of_endsInJoint hbegins hjoint spacing, ?_, ?_⟩
    · rw [hnone]
      exact .nil
    · rw [Division.partsFrom_afterJoint hblank (hcore.trans hjoint)]
      rfl
  | false =>
    have hline : rest = [] ∨ ∃ g ∈ statement.remains ++ solid spacing.val,
        endsStatement g.shown = true := by
      apply hends.imp_right
      intro hmem
      exact ⟨⟨'\n', '\n'⟩, List.mem_append_right _ (List.mem_map_of_mem hmem), by decide⟩
    obtain ⟨blanks, hblanks, he⟩ :=
      exists_caseClauses_of_gap hblank.showsGap (hcore.trans hjoint) hrest hline
    exact ⟨_, blanks, hblanks, statement.forall₂_afterCase? hbegins spacing, he⟩

theorem isEnclosed_text : IsEnclosed statement.text := by
  cases statement with
  | listing printed => exact .of_holdsNoStop printed.holdsNoStop_text
  | aside member =>
    have hblock : IsEnclosed ('{' :: (member.block ++ ['}'])) := by
      refine ⟨?_, by simpa using member.unmarked_block,
        (closes_of_braceCounts member.balanced_block).block .nil⟩
      simp only [IsSolid, List.forall_mem_cons, List.forall_mem_append]
      exact ⟨by decide, member.isSolid_block, by decide, List.forall_mem_nil _⟩
    exact (IsEnclosed.of_holdsNoStop member.holdsNoStop_head).append hblock

end BodyStatement

namespace BodyStatement

def reading : LineReading BodyStatement PrintedStatement where
  shown statement := solid statement.core ++ statement.remains
  joins := endsInJoint
  listed statement := statement.printed?.toList
  IsClause := IsClauseOf
  startsWithJoint_shown statement rest := by
    rw [List.append_assoc]
    exact statement.startsWithJoint_core _
  exists_caseClauses statement _ _ hbegins spacing _ hrest hends := by
    simp only [List.append_assoc]
    exact statement.exists_caseClauses_statement hbegins spacing hrest hends

theorem flatten_bodyText (lines : List (Line BodyStatement)) :
    flatten (solid (Line.bodyText text lines)) = Line.bodyShown reading.shown lines := by
  have hspacing (spacing : Spacing) (rest : List Char) :
      flatten (solid (spacing.val ++ rest)) = solid spacing.val ++ flatten (solid rest) := by
    rw [solid_append]
    exact flattenAt_append_of_forall
      (shown_of_holdsNoStop (holdsNoStop_spacing spacing)) _
  have htext (statement : BodyStatement) (rest : List Char) (_ : ∀ c ∈ rest.head?, c ≠ '"') :
      flatten (solid (statement.text ++ rest)) =
        reading.shown statement ++ flatten (solid rest) := by
    rw [solid_append, reading, List.append_assoc]
    exact statement.flattenAt_text _
  have hend : ∀ c ∈ ([] : List Char).head?, c ≠ '"' := by simp
  have hview := Line.view_bodyText (fun text => flatten (solid text)) hspacing htext lines hend
  simpa [flatten, flattenAt] using hview

theorem mapM_caseElements (lines : List (Line BodyStatement)) :
    (caseElements (solid (Line.bodyText text lines))).mapM readElement =
      .ok (meanings (kept false (lines.map Line.statement))) := by
  rw [caseElements, flatten_bodyText, statements_eq]
  exact mapM_readElement_clauses (reading.forall₂_bodyShown lines)

theorem isEnclosed_bodyText (lines : List (Line BodyStatement)) :
    IsEnclosed (Line.bodyText text lines) := by
  apply Line.bodyText_induction (.of_holdsNoStop (List.forall_mem_nil _)) IsEnclosed.append
  · exact fun spacing => .of_holdsNoStop (holdsNoStop_spacing spacing)
  · exact isEnclosed_text

theorem readSource_bodyText (frame : Frame) (file : Option (List Char))
    (lines : List (Line BodyStatement)) :
    readSource frame.marker.text file (frame.text (Line.bodyText text lines)) =
      .ok [frame.declaration file (meanings (kept false (lines.map Line.statement)))] := by
  have henclosed := isEnclosed_bodyText lines
  rw [frame.readSource_solid file henclosed.isSolid henclosed.unmarked henclosed.closes,
    mapM_caseElements]
  rfl

end BodyStatement

namespace BodyStatement

def TakesIn (above below : BodyStatement) : Prop :=
  above.endsInJoint = true ∧ below.printed?.isSome = true

theorem printed_cons (statement : BodyStatement) (rest : List BodyStatement) :
    printed (statement :: rest) = statement.printed?.toList ++ printed rest := by
  cases h : statement.printed? <;> simp [printed, h]

theorem kept_sublist (takenIn : Bool) (statements : List BodyStatement) :
    (kept takenIn statements).Sublist (printed statements) := by
  induction statements generalizing takenIn with
  | nil => exact List.nil_sublist _
  | cons statement rest ih =>
    have hfirst : (if takenIn then [] else statement.printed?.toList).Sublist
        statement.printed?.toList := by
      split
      · exact List.nil_sublist _
      · exact List.Sublist.refl _
    rw [printed_cons, kept_cons]
    exact hfirst.append (ih _)

theorem kept_eq_printed_iff {takenIn : Bool} {statements : List BodyStatement} :
    kept takenIn statements = printed statements ↔
      (takenIn = true → ∀ first ∈ statements.head?, first.printed? = none) ∧
        statements.IsChain fun above below => ¬ TakesIn above below := by
  induction statements generalizing takenIn with
  | nil => simp [kept_nil, printed]
  | cons statement rest ih =>
    have hchain : (statement :: rest).IsChain (fun above below => ¬ TakesIn above below) ↔
        kept statement.endsInJoint rest = printed rest := by
      have hfirst : (∀ next ∈ rest.head?, ¬ TakesIn statement next) ↔
          (statement.endsInJoint = true → ∀ next ∈ rest.head?, next.printed? = none) := by
        simp only [TakesIn, not_and, Bool.not_eq_true, Option.isSome_eq_false_iff,
          Option.isNone_iff_eq_none]
        exact ⟨fun h hjoint next hnext => h next hnext hjoint, fun h next hnext hjoint =>
          h hjoint next hnext⟩
      rw [ih, List.isChain_cons, hfirst]
    rw [hchain, kept_cons, printed_cons]
    cases takenIn with
    | false => simp
    | true =>
      cases hprinted : statement.printed? with
      | none => simp [hprinted]
      | some first =>
        -- One statement less is kept, and no more of the others than there are.
        have hle := (kept_sublist statement.endsInJoint rest).length_le
        have hne : kept statement.endsInJoint rest ≠ first :: printed rest := by
          intro heq
          rw [heq, List.length_cons] at hle
          omega
        simp [hprinted, hne]

theorem length_meanings (statements : List PrintedStatement) :
    (meanings statements).length = (statements.map fun s => s.more.length + 1).sum := by
  simp [meanings, List.length_flatMap, PrintedStatement.cases]

theorem eq_of_meanings_eq {some all : List PrintedStatement} (h : some.Sublist all)
    (hsame : meanings some = meanings all) : some = all := by
  have hle {some all : List PrintedStatement} (h : some.Sublist all) :
      (meanings some).length ≤ (meanings all).length := by
    rw [length_meanings, length_meanings]
    exact (h.map _).sum_le_sum fun _ _ => Nat.zero_le _
  have hlength := congrArg List.length hsame
  clear hsame
  induction h with
  | slnil => rfl
  | @cons some all first h _ =>
    -- The statement left out has a case at least.
    have hmore := hle h
    simp only [length_meanings, List.map_cons, List.sum_cons] at hlength hmore
    omega
  | cons_cons first _ ih =>
    rw [ih]
    simpa [length_meanings] using hlength

end BodyStatement

open BodyStatement in
/-- The cases among members are read in order, but for those of a statement right below a member
that ends in a joint. -/
theorem cases_among_members (frame : Frame) (file : Option (List Char))
    (lines : List (Line BodyStatement)) :
    let statements := lines.map Line.statement
    let result := readSource frame.marker.text file
      (frame.text (Line.bodyText BodyStatement.text lines))
    result = .ok [frame.declaration file (meanings (kept false statements))] ∧
      (result = .ok [frame.declaration file (meanings (printed statements))] ↔
        statements.IsChain fun above below => ¬ TakesIn above below) := by
  intro statements result
  have hread : result = .ok [frame.declaration file (meanings (kept false statements))] :=
    readSource_bodyText frame file lines
  refine ⟨hread, ?_⟩
  have hkept := @kept_eq_printed_iff false statements
  rw [hread]
  constructor
  · intro hsame
    have hcases : meanings (kept false statements) = meanings (printed statements) := by
      simpa [Frame.declaration] using hsame
    exact (hkept.mp (eq_of_meanings_eq (kept_sublist _ _) hcases)).2
  · intro hchain
    rw [hkept.mpr ⟨by simp, hchain⟩]

def closureLines : List (Line BodyStatement) :=
  let space : Spacing := .of " ".toList (.refl true)
  let lead : Spacing := .of "    ".toList (.refl true)
  let three : SignedLiteral := ⟨false, ⟨.decimal, '3', [], .refl true, List.forall_mem_nil _⟩⟩
  [{ lead := .of "\n    ".toList (.refl true)
     statement := .aside
      { head := "static let f = ".toList
        block := " 5 ".toList
        firstWord_allowed := by decide
        wellNested_head := wellNested_of_forall (by decide)
        holdsNoStop_head := by decide
        oneLine_head := by decide
        isSolid_block := by unfold IsSolid; decide
        unmarked_block := by decide
        balanced_block := by decide }
     trail := .of [] (.refl true) },
    { lead := lead
      statement := .listing ⟨0, ⟨.of 'a' [] (.refl true), false, none, none⟩, []⟩
      trail := .of [] (.refl true) },
    { lead := lead
      statement := .listing ⟨0, ⟨.of 'b' [] (.refl true), false, none,
        some ⟨⟨space, space⟩, three, fun h => absurd h.2 (by decide)⟩⟩, []⟩
      trail := .of "\n".toList (.refl true) }]

open BodyStatement in
theorem case_below_closure_not_read :
    let statements := closureLines.map Line.statement
    let source :=
      ("@GodotEnum\nenum N: Int \x7b\n    static let f = \x7b 5 \x7d\n" ++
        "    case a\n    case b = 3\n\x7d\n").toList
    plainFrame.text (Line.bodyText BodyStatement.text closureLines) = source ∧
      meanings (printed statements) = [⟨"a".toList, none⟩, ⟨"b".toList, some (.integer 3)⟩] ∧
      readSource "GodotEnum".toList none source =
        .ok [⟨.enum, "N".toList, [⟨"b".toList, some (.integer 3)⟩], none, some 1⟩] ∧
      readSource "GodotEnum".toList none source ≠
        .ok [plainFrame.declaration none (meanings (printed statements))] := by
  decide +kernel

end EnumExport
