import EnumExport.Proofs.Printing.Elements
import EnumExport.Proofs.Printing.Frames
import EnumExport.Proofs.Printing.Lines
import Mathlib.Algebra.Order.BigOperators.Group.List

namespace EnumExport

open Glyph

theorem afterCase?_quote {blanks : List (Glyph Char)} (h : ShowsBlank blanks)
    (rest : List (Glyph Char)) : afterCase? ((⟨'"', '"'⟩ :: blanks).reverse ++ rest) = none := by
  have hskip : skipBlanks ((⟨'"', '"'⟩ :: blanks).reverse ++ rest) = ⟨'"', '"'⟩ :: rest := by
    rw [List.reverse_cons, List.append_assoc, skipBlanks_append_of_showsBlank h.reverse]
    rfl
  have hword : leadingWord (⟨'"', '"'⟩ :: rest) = [] := rfl
  rw [afterCase?_of_skipBlanks hskip, if_neg (by decide), afterCaseWord?, hword,
    if_neg (by decide), if_neg (by decide)]

def EndsIn (before gs seen rest : List (Glyph Char)) : Prop :=
  ∃ blanks, ShowsBlank blanks ∧
    caseClauses (statementDivision.partsFrom 0 before (gs ++ rest)) =
      (afterCase? (before.reverse ++ seen)).toList ++
        caseClauses (statementDivision.partsFrom 0 blanks rest)

namespace WrittenElement

theorem endsIn_glyphs (element : WrittenElement) {gs seen rest : List (Glyph Char)}
    (hgs : ∀ before, startsWithJoint before = false → EndsIn before gs seen rest)
    (before : List (Glyph Char)) :
    EndsIn before (element.glyphs ++ gs) (element.seen seen) rest := by
  cases hbreaks : element.breaksLine with
  | true =>
    -- What follows goes on with a quote, so that no word of it opens a case statement.
    obtain ⟨blanks, hblanks, he⟩ :=
      element.exists_caseClauses_of_breaksLine hbreaks before (gs ++ rest)
    obtain ⟨left, hleft, hrest⟩ := hgs (⟨'"', '"'⟩ :: blanks) rfl
    rw [afterCase?_quote hblanks] at hrest
    refine ⟨left, hleft, ?_⟩
    rw [List.append_assoc, he, hrest, element.seen_of_breaksLine hbreaks]
    rfl
  | false =>
    have hjoint := element.startsWithJoint_reverse_glyphs before
    obtain ⟨left, hleft, hrest⟩ := hgs _ hjoint
    refine ⟨left, hleft, ?_⟩
    rw [List.append_assoc, element.crosses_glyphs hbreaks, hrest,
      element.seen_of_not_breaksLine hbreaks]
    simp

theorem endsIn_moreGlyphs (more : List (Joint × WrittenElement)) {gap rest : List (Glyph Char)}
    (hgap : ShowsGap gap) (hrest : startsWithJoint rest = false)
    (hends : rest = [] ∨ ∃ g ∈ gap, endsStatement g.shown = true) {before : List (Glyph Char)}
    (hbefore : startsWithJoint before = false) :
    EndsIn before (moreGlyphs more ++ gap) (moreSeen (beforeEnd gap) more) rest := by
  induction more generalizing before with
  | nil => exact exists_caseClauses_of_gap hgap hbefore hrest hends
  | cons next more ih =>
    obtain ⟨joint, next⟩ := next
    obtain ⟨left, hleft, he⟩ :=
      next.endsIn_glyphs (fun _ h => ih h) ((solid (joint.text ',')).reverse ++ before)
    have hglyphs : moreGlyphs ((joint, next) :: more) ++ gap ++ rest =
        solid (joint.text ',') ++ (next.glyphs ++ (moreGlyphs more ++ gap) ++ rest) := by
      simp [moreGlyphs]
    refine ⟨left, hleft, ?_⟩
    rw [hglyphs, Division.passes_joint joint rfl, he]
    simp [moreSeen]

end WrittenElement

structure WrittenStatement where
  moreSpaces : Nat
  first : WrittenElement
  more : List (Joint × WrittenElement)

namespace WrittenStatement

open WrittenElement

variable (statement : WrittenStatement)

def opening : List Char := caseWord ++ ' ' :: List.replicate statement.moreSpaces ' '

def text : List Char := statement.opening ++ (statement.first.text ++ moreText statement.more)

def glyphs : List (Glyph Char) :=
  solid statement.opening ++ (statement.first.glyphs ++ moreGlyphs statement.more)

def elements : List WrittenElement := statement.first :: statement.more.map Prod.snd

def readElements : List WrittenElement := (uptoBreak statement.elements).filter isNamed

def IsWrittenIn (clause : List (Glyph Char)) (statement : WrittenStatement) : Prop :=
  ∃ trail, AllBlank trail ∧
    clause = solid (' ' :: List.replicate statement.moreSpaces ' ') ++
      statement.first.seen (moreSeen trail statement.more)

theorem forall₂_afterCase? {takenIn : Bool} {before trail : List (Glyph Char)}
    (hbegins : Begins takenIn before) (htrail : AllBlank trail) :
    List.Forall₂ IsWrittenIn
      (afterCase? (((solid statement.opening).reverse ++ before).reverse ++
        statement.first.seen (moreSeen trail statement.more))).toList
      (if takenIn then [] else [statement]) := by
  have hclause : ((solid statement.opening).reverse ++ before).reverse ++
      statement.first.seen (moreSeen trail statement.more) =
      before.reverse ++ (solid caseWord ++
        (solid (' ' :: List.replicate statement.moreSpaces ' ') ++
          statement.first.seen (moreSeen trail statement.more))) := by
    simp [opening]
  rw [hclause]
  cases takenIn with
  | true =>
    rw [hbegins.2]
    exact .nil
  | false =>
    have hstop : ∀ g ∈ (solid (' ' :: List.replicate statement.moreSpaces ' ') ++
        statement.first.seen (moreSeen trail statement.more)).head?, Glyph.isWord g = false := by
      intro g hg
      obtain rfl := Option.some.inj hg
      decide
    rw [afterCase?_caseWord (ShowsBlank.reverse hbegins) hstop]
    exact .cons ⟨_, htrail, rfl⟩ .nil

theorem exists_caseClauses {takenIn : Bool} {before : List (Glyph Char)}
    (hbegins : Begins takenIn before) (spacing : Spacing) {rest : List (Glyph Char)}
    (hrest : startsWithJoint rest = false) (hends : rest = [] ∨ '\n' ∈ spacing.val) :
    ∃ clauses after, Begins false after ∧
      List.Forall₂ IsWrittenIn clauses (if takenIn then [] else [statement]) ∧
      caseClauses (statementDivision.partsFrom 0 before
          (statement.glyphs ++ (solid spacing.val ++ rest))) =
        clauses ++ caseClauses (statementDivision.partsFrom 0 after rest) := by
  have hgap := (showsBlank_solid spacing).showsGap
  have hline : rest = [] ∨ ∃ g ∈ solid spacing.val, endsStatement g.shown = true :=
    hends.imp_right fun hmem => ⟨⟨'\n', '\n'⟩, List.mem_map_of_mem hmem, by decide⟩
  have htrail : AllBlank (beforeEnd (solid spacing.val)) :=
    allBlank_of_solid (showsBlank_beforeEnd hgap) (prefix_beforeEnd _)
  have hopening : statementDivision.Passes statement.opening :=
    Division.passes_caseWord.append (Division.passes_spaces statement.moreSpaces)
  have hglyphs : statement.glyphs ++ (solid spacing.val ++ rest) = solid statement.opening ++
      (statement.first.glyphs ++ (moreGlyphs statement.more ++ solid spacing.val) ++ rest) := by
    simp [glyphs]
  obtain ⟨after, hafter, he⟩ := statement.first.endsIn_glyphs
    (fun _ h => endsIn_moreGlyphs statement.more hgap hrest hline h)
    ((solid statement.opening).reverse ++ before)
  rw [hglyphs, hopening, he]
  exact ⟨_, after, hafter, statement.forall₂_afterCase? hbegins htrail, rfl⟩

def reading : LineReading WrittenStatement WrittenStatement where
  shown := glyphs
  joins _ := false
  listed statement := [statement]
  IsClause := IsWrittenIn
  startsWithJoint_shown _ _ := rfl
  exists_caseClauses statement _ _ hbegins := statement.exists_caseClauses hbegins

theorem mapM_elements {clause : List (Glyph Char)} (h : IsWrittenIn clause statement) :
    ((EnumExport.elements clause).filterMap element?).mapM readElement =
      .ok (statement.readElements.map meaning) := by
  obtain ⟨trail, htrail, rfl⟩ := h
  have hspaces := (allBlank_spaces statement.moreSpaces).showsBlank
  have hparts := statement.first.forall₂_partsFrom_moreSeen statement.more hspaces htrail
  rw [elements_eq, Division.parts, Division.crosses_of_showsBlank hspaces, List.append_nil]
  exact WrittenElement.mapM_readElement hparts

theorem mapM_clauses {clauses : List (List (Glyph Char))} {statements : List WrittenStatement}
    (h : List.Forall₂ IsWrittenIn clauses statements) :
    (clauses.flatMap fun clause =>
        (EnumExport.elements clause).filterMap element?).mapM readElement =
      .ok ((statements.flatMap readElements).map meaning) := by
  rw [List.map_flatMap]
  exact mapM_flatMap_ok (h.imp fun _ statement hclause => statement.mapM_elements hclause)

theorem holdsNoStop_opening : HoldsNoStop statement.opening :=
  holdsNoStop_append (by decide) fun _ hc => isStop_of_isSpacing (isSpacing_of_mem_spaces hc)

theorem shown_ne {d : Char} (hd : d ∈ ['@', '{', '}']) : ∀ g ∈ statement.glyphs, g.shown ≠ d := by
  have hall : ∀ d ∈ ['@', '{', '}'], isStop d = true := by decide
  have hcomma : isStop ',' = false := by decide
  simp only [glyphs, moreGlyphs, List.forall_mem_append, List.forall_mem_flatMap]
  refine ⟨shown_ne_of_holdsNoStop statement.holdsNoStop_opening (hall d hd),
    statement.first.shown_ne hd, ?_⟩
  rintro ⟨joint, element⟩ -
  have hjoint := shown_ne_of_holdsNoStop (holdsNoStop_joint joint hcomma) (hall d hd)
  exact ⟨hjoint, element.shown_ne hd⟩

theorem glyphs_text {rest : List Char} (hrest : ∀ c ∈ rest.head?, c ≠ '"') :
    EnumExport.glyphs (statement.text ++ rest) = statement.glyphs ++ EnumExport.glyphs rest := by
  have hopening := isSolid_of_holdsNoStop statement.holdsNoStop_opening
  obtain ⟨hmore, hhead⟩ := glyphs_moreText statement.more hrest
  rw [text, glyphs, List.append_assoc, List.append_assoc, List.append_assoc,
    glyphs_append_of_isSolid hopening, statement.first.glyphs_text hhead, hmore, List.append_assoc]

theorem glyphs_bodyText (lines : List (Line WrittenStatement)) {rest : List Char}
    (hrest : ∀ c ∈ rest.head?, c ≠ '"') :
    EnumExport.glyphs (Line.bodyText text lines ++ rest) =
      Line.bodyShown glyphs lines ++ EnumExport.glyphs rest := by
  apply Line.view_bodyText EnumExport.glyphs _ _ lines hrest
  · exact fun spacing rest =>
      glyphs_append_of_isSolid (isSolid_of_holdsNoStop (holdsNoStop_spacing spacing)) rest
  · exact fun statement _ h => statement.glyphs_text h

theorem shown_bodyShown_ne {d : Char} (hd : d ∈ ['@', '{', '}'])
    (lines : List (Line WrittenStatement)) :
    ∀ g ∈ Line.bodyShown glyphs lines, g.shown ≠ d := by
  have hspacing : ∀ d ∈ ['@', '{', '}'], isSpacing d = false := by decide
  apply Line.forall_bodyShown
  · exact fun c hc => ne_of_holds hc (hspacing d hd)
  · exact fun statement => statement.shown_ne hd

theorem readSource_bodyText (frame : Frame) (file : Option (List Char))
    (lines : List (Line WrittenStatement)) :
    readSource frame.marker.text file (frame.text (Line.bodyText text lines)) =
      .ok [frame.declaration file
        (((lines.map Line.statement).flatMap readElements).map meaning)] := by
  have hend : ∀ c ∈ ('}' :: frame.below).head?, c ≠ '"' := by simp
  have hglyphs := glyphs_bodyText lines hend
  rw [glyphs_cons_of_ne (by decide) (by decide)] at hglyphs
  have hshown : ∀ g ∈ Line.bodyShown glyphs lines, g.shown ≠ '{' ∧ g.shown ≠ '}' := fun g hg =>
    ⟨shown_bodyShown_ne (by decide) lines g hg, shown_bodyShown_ne (by decide) lines g hg⟩
  have hcases : (caseElements (Line.bodyShown glyphs lines)).mapM readElement =
      .ok (((lines.map Line.statement).flatMap readElements).map meaning) := by
    have hclauses := reading.forall₂_bodyShown lines
    rw [reading, listedFrom_of_not_joins] at hclauses
    rw [caseElements, flatten_of_forall hshown, statements_eq]
    rw [List.flatMap_singleton'] at hclauses
    exact mapM_clauses hclauses
  rw [frame.readSource_text file hglyphs (.of_forall (shown_bodyShown_ne (by decide) lines))
    (blockInside?_of_forall hshown _), hcases]
  rfl

end WrittenStatement

namespace WrittenElement

theorem uptoBreak_sublist (elements : List WrittenElement) :
    (uptoBreak elements).Sublist elements := by
  induction elements with
  | nil => exact List.Sublist.refl _
  | cons element rest ih =>
    rw [uptoBreak]
    split
    · exact (List.nil_sublist _).cons_cons _
    · exact ih.cons_cons _

theorem uptoBreak_eq_iff {elements : List WrittenElement} :
    uptoBreak elements = elements ↔ ∀ element ∈ elements.dropLast, element.breaksLine = false := by
  induction elements with
  | nil => simp [uptoBreak]
  | cons element rest ih =>
    cases rest with
    | nil => simp [uptoBreak]
    | cons next rest =>
      rw [List.dropLast_cons_cons, List.forall_mem_cons, ← ih, uptoBreak]
      cases element.breaksLine <;> simp

end WrittenElement

namespace WrittenStatement

open WrittenElement

variable (statement : WrittenStatement)

/-- Whether every name begins like a name, and no element but the last breaks the line. -/
def IsReadable : Prop :=
  (∀ element ∈ statement.elements, element.isNamed = true) ∧
    ∀ element ∈ statement.elements.dropLast, element.breaksLine = false

theorem readElements_sublist : statement.readElements.Sublist statement.elements :=
  List.filter_sublist.trans (uptoBreak_sublist _)

theorem readElements_eq_iff :
    statement.readElements = statement.elements ↔ statement.IsReadable := by
  rw [IsReadable, ← uptoBreak_eq_iff, readElements]
  constructor
  · intro hsame
    have hupto : uptoBreak statement.elements = statement.elements := by
      apply (uptoBreak_sublist _).eq_of_length_le
      conv => lhs; rw [← hsame]
      exact List.filter_sublist.length_le
    rw [hupto, List.filter_eq_self] at hsame
    exact ⟨hsame, hupto⟩
  · rintro ⟨hnamed, hupto⟩
    rw [hupto, List.filter_eq_self]
    exact hnamed

theorem eq_of_length_flatMap {statements : List WrittenStatement}
    (h : (statements.flatMap readElements).length = (statements.flatMap elements).length) :
    ∀ statement ∈ statements, statement.readElements = statement.elements := by
  induction statements with
  | nil => exact List.forall_mem_nil _
  | cons statement rest ih =>
    have hle := statement.readElements_sublist.length_le
    have hrest : (rest.flatMap readElements).length ≤ (rest.flatMap elements).length := by
      rw [List.length_flatMap, List.length_flatMap]
      exact List.sum_le_sum fun statement _ => statement.readElements_sublist.length_le
    simp only [List.flatMap_cons, List.length_append] at h
    refine List.forall_mem_cons.mpr ⟨?_, ih (by omega)⟩
    exact statement.readElements_sublist.eq_of_length (by omega)

theorem names_eq_iff {statements : List WrittenStatement} :
    (statements.flatMap readElements).map name = (statements.flatMap elements).map name ↔
      ∀ statement ∈ statements, statement.IsReadable := by
  constructor
  · intro hnames statement hmem
    have hlength := congrArg List.length hnames
    rw [List.length_map, List.length_map] at hlength
    exact statement.readElements_eq_iff.mp (eq_of_length_flatMap hlength statement hmem)
  · intro hreadable
    have hsame : statements.flatMap readElements = statements.flatMap elements :=
      List.flatMap_congr fun statement hmem => statement.readElements_eq_iff.mpr (hreadable _ hmem)
    rw [hsame]

/-- Every element is read, in order and by its name, if and only if every name begins with a letter
of ASCII or an underscore and only the last raw value of a statement breaks the line. -/
theorem elements_in_lines_read (frame : Frame) (file : Option (List Char))
    (lines : List (Line WrittenStatement)) :
    let statements := lines.map Line.statement
    let result := readSource frame.marker.text file
      (frame.text (Line.bodyText text lines))
    result = .ok [frame.declaration file ((statements.flatMap readElements).map meaning)] ∧
      ((∃ cases, result = .ok [frame.declaration file cases] ∧
          cases.map EnumCase.name = (statements.flatMap elements).map name) ↔
        ∀ statement ∈ statements, statement.IsReadable) := by
  intro statements result
  have hread :
      result = .ok [frame.declaration file ((statements.flatMap readElements).map meaning)] :=
    readSource_bodyText frame file lines
  have hnames : ((statements.flatMap readElements).map meaning).map EnumCase.name =
      (statements.flatMap readElements).map name := by
    rw [List.map_map]
    rfl
  refine ⟨hread, ?_⟩
  rw [← names_eq_iff, hread, ← hnames]
  constructor
  · rintro ⟨cases, hcases, hsame⟩
    obtain rfl : (statements.flatMap readElements).map meaning = cases := by
      simpa [Frame.declaration] using hcases
    exact hsame
  · exact fun hsame => ⟨_, rfl, hsame⟩

def brokenLines : List (Line WrittenStatement) :=
  let space : Spacing := .of " ".toList (.refl true)
  let comma : Joint := ⟨.of [] (.refl true), space⟩
  let string : StringLiteral :=
    .block "\n        x\n        ".toList (by decide +kernel) (by decide)
  let plain (c : Char) (h : isWord c = true) : WrittenElement :=
    ⟨[c], none, none, List.cons_ne_nil _ _, List.forall_mem_singleton.mpr h⟩
  [{ lead := .of "\n    ".toList (.refl true)
     statement :=
      { moreSpaces := 0
        first := { plain 'a' (.refl true) with rawValue := some (⟨space, space⟩, .string string) }
        more := [(comma, plain 'b' (.refl true))] }
     trail := .of [] (.refl true) },
    { lead := .of "    ".toList (.refl true)
      statement := ⟨0, plain 'é' (by decide +kernel), [(comma, plain 'c' (.refl true))]⟩
      trail := .of "\n".toList (.refl true) }]

theorem elements_not_read :
    let named := ((brokenLines.map Line.statement).flatMap elements).map name
    let source :=
      ("@GodotEnum\nenum N: Int \x7b\n    case a = \"\"\"\n        x\n        \"\"\", b\n" ++
        "    case é, c\n\x7d\n").toList
    plainFrame.text (Line.bodyText text brokenLines) = source ∧
      named = [['a'], ['b'], ['é'], ['c']] ∧
      readSource "GodotEnum".toList none source =
        .ok [⟨.enum, "N".toList, [⟨['a'], some (.unsupported "\"\"\"".toList)⟩, ⟨['c'], none⟩],
          none, some 1⟩] ∧
      ∀ cases, readSource "GodotEnum".toList none source =
        .ok [plainFrame.declaration none cases] → cases.map EnumCase.name ≠ named := by
  intro named source
  have hnamed : named = [['a'], ['b'], ['é'], ['c']] := by decide +kernel
  have hread : readSource "GodotEnum".toList none source =
      .ok [⟨.enum, "N".toList, [⟨['a'], some (.unsupported "\"\"\"".toList)⟩, ⟨['c'], none⟩],
        none, some 1⟩] := by decide +kernel
  refine ⟨by decide +kernel, hnamed, hread, ?_⟩
  intro cases hcases
  have hdeclaration := List.head_eq_of_cons_eq (Except.ok.inj (hread.symm.trans hcases))
  have hsame : _ = cases := congrArg Declaration.cases hdeclaration
  rw [hnamed, ← hsame]
  decide

end WrittenStatement

end EnumExport
