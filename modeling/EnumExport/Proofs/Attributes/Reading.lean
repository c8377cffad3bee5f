import EnumExport.Proofs.Attributes.Clauses
import EnumExport.Proofs.Reading.Declarations

/-!
Reading of attributed enums: an enum and its case are read if no argument list has parentheses of
its own and none divides the statement of the case. Otherwise, unless their names stand in a list,
they are not.
-/

namespace EnumExport

open Glyph

section Characters

variable {c : Char}

theorem mem_argumentText {attached : Attribute} (h : c ∈ attached.argumentText) :
    isStop c = false ∧ c ≠ '\n' := by
  cases harguments : attached.arguments with
  | none => simp [Attribute.argumentText, harguments] at h
  | some arguments =>
    rw [Attribute.argumentText, harguments, Option.map_some, Option.getD_some] at h
    refine ⟨arguments.holdsNoStop_text c h, ?_⟩
    rintro rfl
    simp [ArgumentList.text, arguments.oneLine] at h

theorem mem_attributeText {attached : Attribute} (h : c ∈ attached.text) :
    c = '@' ∨ isStop c = false ∧ c ≠ '\n' := by
  rcases List.mem_cons.mp h with rfl | h
  · exact .inl rfl
  · rcases List.mem_append.mp h with h | h
    · have hword := attached.name.isWord_text c h
      exact .inr ⟨isStop_of_isWord hword, ne_of_holds hword (by decide)⟩
    · exact .inr (mem_argumentText h)

theorem mem_caseText {attributes : List Attribute} {caseName : Identifier}
    (h : c ∈ caseText attributes caseName) : c = '@' ∨ isStop c = false ∧ c ≠ '\n' := by
  induction attributes with
  | nil =>
    rcases mem_caseText_nil h with hword | rfl
    · exact .inr ⟨isStop_of_isWord hword, ne_of_holds hword (by decide)⟩
    · decide
  | cons attached attributes ih =>
    rw [caseText_cons] at h
    rcases List.mem_append.mp h with h | h
    · exact mem_attributeText h
    · rcases List.mem_cons.mp h with rfl | h
      · decide
      · exact ih h

theorem mem_headerText {attributes : List Attribute} {rest : List Char}
    (h : c ∈ headerText attributes rest) : c = '@' ∨ isStop c = false ∨ c ∈ rest := by
  induction attributes with
  | nil => exact .inr (.inr h)
  | cons attached attributes ih =>
    have htext : headerText (attached :: attributes) rest =
        ' ' :: (attached.text ++ headerText attributes rest) := by simp [headerText]
    rw [htext] at h
    rcases List.mem_cons.mp h with rfl | h
    · exact .inr (.inl (by decide))
    · rcases List.mem_append.mp h with h | h
      · rcases mem_attributeText h with h | h
        · exact .inl h
        · exact .inr (.inl h.1)
      · exact ih h

end Characters

section Marks

variable {marker : List Char}

theorem unmarked_solid {text : List Char} (h : ∀ c ∈ text, c ≠ '@') :
    Unmarked marker (solid text) := by
  apply Unmarked.of_forall
  intro g hg
  obtain ⟨c, hc, rfl⟩ := List.mem_map.mp hg
  exact h c hc

theorem unmarked_attribute {attached : Attribute} (hname : attached.name.text ≠ marker)
    {rest : List (Glyph Char)} (hparted : StartsParted rest) (hrest : Unmarked marker rest) :
    Unmarked marker (solid attached.text ++ rest) := by
  have hhead := attached.isWord_head_argumentText hparted
  have hleading : leadingWord (solid attached.name.text ++ (solid attached.argumentText ++ rest)) =
      attached.name.text := by
    rw [leadingWord, takeWhile_append_of_stop (isWord_solid_identifier attached.name) hhead,
      text_solid]
  have hspells : ¬ spells marker
      (solid attached.name.text ++ (solid attached.argumentText ++ rest)) = true := by
    simp [spells, hleading, hname]
  have hnone : ∀ c ∈ attached.name.text ++ attached.argumentText, c ≠ '@' := by
    intro c hc
    rcases List.mem_append.mp hc with hc | hc
    · exact ne_of_holds (attached.name.isWord_text c hc) (by decide)
    · exact ne_of_isStop (mem_argumentText hc).1 (by decide)
  obtain ⟨g, tail, rfl, -⟩ := hparted
  have hafter : Unmarked marker
      (solid (attached.name.text ++ attached.argumentText) ++ ⟨' ', ' '⟩ :: g :: tail) :=
    (unmarked_solid hnone).append (by decide) hrest
  rw [solid_append, List.append_assoc] at hafter
  have htext : solid attached.text ++ ⟨' ', ' '⟩ :: g :: tail =
      ⟨'@', '@'⟩ :: (solid attached.name.text ++
        (solid attached.argumentText ++ ⟨' ', ' '⟩ :: g :: tail)) := by
    simp [Attribute.text]
  rw [htext, Unmarked, occurrences, if_neg (by decide), if_neg fun h => hspells h.2, hafter]

theorem unmarked_caseText {attributes : List Attribute}
    (hnames : ∀ attached ∈ attributes, attached.name.text ≠ marker) (caseName : Identifier) :
    Unmarked marker (solid (caseText attributes caseName)) := by
  induction attributes with
  | nil =>
    apply unmarked_solid
    intro c hc
    rcases mem_caseText_nil hc with hword | rfl
    · exact ne_of_holds hword (by decide)
    · decide
  | cons attached attributes ih =>
    obtain ⟨hname, hmore⟩ := List.forall_mem_cons.mp hnames
    rw [caseText_cons, solid_append]
    exact unmarked_attribute hname (startsParted_caseText attributes caseName)
      ((ih hmore).cons (by decide))

theorem unmarked_headerText {attributes : List Attribute} {rest : List Char}
    (hnames : ∀ attached ∈ attributes, attached.name.text ≠ marker)
    (hparted : StartsParted (solid rest)) (hrest : Unmarked marker (solid rest)) :
    Unmarked marker (solid (headerText attributes rest)) := by
  induction attributes with
  | nil => exact hrest
  | cons attached attributes ih =>
    obtain ⟨hname, hmore⟩ := List.forall_mem_cons.mp hnames
    rw [headerText_cons, solid_cons, List.cons_append]
    apply Unmarked.cons (by decide)
    exact unmarked_attribute hname (startsParted_headerText attributes hparted) (ih hmore)

end Marks

namespace AttributedEnum

variable (printed : AttributedEnum)

def keyword : List Char := " enum ".toList ++ (printed.name.text ++ printed.afterName)

theorem afterMarker_eq :
    printed.afterMarker =
      printed.marker.argumentText ++ headerText printed.further printed.keyword :=
  rfl

theorem afterName_eq : printed.afterName = " ".toList ++ '{' :: (printed.body ++ ['}']) := rfl

theorem startsParted_keyword : StartsParted (solid printed.keyword) :=
  ⟨⟨'e', 'e'⟩, _, rfl, by decide, by decide⟩

theorem mem_body {c : Char} (h : c ∈ printed.body) : c = '@' ∨ isStop c = false ∧ c ≠ '\n' := by
  rcases List.mem_cons.mp h with rfl | h
  · decide
  · exact mem_caseText h

theorem shown_body : ∀ g ∈ solid printed.body, g.shown ≠ '{' ∧ g.shown ≠ '}' := by
  intro g hg
  obtain ⟨c, hc, rfl⟩ := List.mem_map.mp hg
  rcases printed.mem_body hc with rfl | ⟨hstop, -⟩
  · decide
  · exact ⟨ne_of_isStop hstop (by decide), ne_of_isStop hstop (by decide)⟩

theorem isSolid_text : IsSolid printed.text := by
  have hsolid {c : Char} (h : c = '@' ∨ isStop c = false) : c ≠ '"' ∧ c ≠ '/' := by
    rcases h with rfl | h
    · decide
    · exact ⟨ne_of_isStop h (by decide), ne_of_isStop h (by decide)⟩
  have hbody : IsSolid printed.body :=
    fun c hc => hsolid ((printed.mem_body hc).imp_right And.left)
  have hkeyword : IsSolid printed.keyword := by
    have henum : IsSolid " enum ".toList := by unfold IsSolid; decide
    have hspace : IsSolid " ".toList := by unfold IsSolid; decide
    have hbraces : IsSolid ('{' :: (printed.body ++ ['}'])) :=
      .cons (by decide) (hbody.append (.cons (by decide) isSolid_nil))
    exact henum.append ((isSolid_identifier printed.name).append (hspace.append hbraces))
  unfold text
  rw [afterMarker_eq]
  refine .cons (by decide) ((isSolid_identifier printed.marker.name).append (.append ?_ ?_))
  · exact fun c hc => hsolid (.inr (mem_argumentText hc).1)
  · intro c hc
    rcases mem_headerText hc with h | h | h
    · exact hsolid (.inl h)
    · exact hsolid (.inr h)
    · exact hkeyword c h

theorem unmarked_keyword : Unmarked printed.marker.name.text (solid printed.keyword) := by
  have hfront : ∀ c ∈ " enum ".toList ++ (printed.name.text ++ " ".toList), c ≠ '@' := by
    simp only [List.forall_mem_append]
    exact ⟨by decide, fun c hc => ne_of_holds (printed.name.isWord_text c hc) (by decide),
      by decide⟩
  have hcase : Unmarked printed.marker.name.text
      (solid (caseText printed.ofCase printed.caseName)) :=
    unmarked_caseText (fun attached h => printed.others attached (List.mem_append_right _ h)) _
  have hbody : Unmarked printed.marker.name.text (solid printed.body ++ ⟨'}', '}'⟩ :: []) :=
    (hcase.cons (by decide)).append (by decide) (.of_forall (by simp))
  have htext : solid printed.keyword =
      solid (" enum ".toList ++ (printed.name.text ++ " ".toList)) ++
        ⟨'{', '{'⟩ :: (solid printed.body ++ ⟨'}', '}'⟩ :: []) := by
    unfold keyword
    rw [afterName_eq]
    simp only [solid_append, solid_cons, solid_nil, List.append_assoc]
  rw [htext]
  exact (unmarked_solid hfront).append (by decide) (hbody.cons (by decide))

theorem startsParted_further :
    StartsParted (solid (headerText printed.further printed.keyword)) :=
  startsParted_headerText printed.further printed.startsParted_keyword

theorem unmarked_afterMarker :
    Unmarked printed.marker.name.text
      (solid printed.marker.name.text ++ solid printed.afterMarker) := by
  have hnone : ∀ c ∈ printed.marker.name.text ++ printed.marker.argumentText, c ≠ '@' := by
    intro c hc
    rcases List.mem_append.mp hc with hc | hc
    · exact ne_of_holds (printed.marker.name.isWord_text c hc) (by decide)
    · exact ne_of_isStop (mem_argumentText hc).1 (by decide)
  have hheader : Unmarked printed.marker.name.text
      (solid (headerText printed.further printed.keyword)) :=
    unmarked_headerText (fun attached h => printed.others attached (List.mem_append_left _ h))
      printed.startsParted_keyword printed.unmarked_keyword
  obtain ⟨g, tail, hcons, -⟩ := printed.startsParted_further
  rw [hcons] at hheader
  rw [afterMarker_eq, solid_append, hcons, ← List.append_assoc, ← solid_append]
  exact (unmarked_solid hnone).append (by decide) hheader

theorem occurrences_text :
    occurrences printed.marker.name.text 1 (solid printed.text) =
      [(1, solid printed.afterMarker)] := by
  have hhead : ∀ g ∈ (solid printed.afterMarker).head?, Glyph.isWord g = false := by
    rw [afterMarker_eq, solid_append]
    exact printed.marker.isWord_head_argumentText printed.startsParted_further
  obtain ⟨hspells, hafter⟩ := spells_identifier printed.marker.name hhead
  have htext : solid printed.text =
      ⟨'@', '@'⟩ :: (solid printed.marker.name.text ++ solid printed.afterMarker) := by
    simp [text]
  rw [htext, occurrences, if_neg (by decide), if_pos ⟨rfl, hspells⟩, hafter,
    printed.unmarked_afterMarker]

theorem body?_afterName : body? (solid printed.afterName) = .ok (solid printed.body) := by
  rw [afterName_eq]
  exact body?_of_forall (by decide) printed.shown_body []

theorem headerItems?_keyword :
    headerItems? (solid printed.keyword) =
      some ⟨.enum, solid printed.name.text, solid printed.afterName⟩ := by
  have hends : EndsName isQualified (solid printed.afterName) :=
    forall_mem_head?_cons _ (by decide)
  exact headerItems?_enum (by decide) printed.name hends

theorem header?_afterMarker (hmarker : printed.marker.IsFlat)
    (hfurther : ∀ attached ∈ printed.further, attached.IsFlat) :
    header? (solid printed.afterMarker) =
      some ⟨.enum, solid printed.name.text, solid printed.afterName⟩ := by
  rw [header?, afterMarker_eq, solid_append,
    Attribute.afterOptionalGroup_of_isFlat hmarker printed.startsParted_further,
    headerItems?_headerText hfurther printed.startsParted_keyword, headerItems?_keyword]

theorem isFlat_of_header?
    (happart : ∀ arguments ∈ argumentLists (printed.marker :: printed.further),
      ¬ printed.name.text <:+: arguments.text) {header : Header Char}
    (hheader : header? (solid printed.afterMarker) = some header)
    (hname : unquotedText header.name = printed.name.text) :
    ∀ attached ∈ printed.marker :: printed.further, attached.IsFlat := by
  rw [header?, afterMarker_eq, solid_append] at hheader
  rcases isFlat_or_named_inside printed.startsParted_keyword hheader with hflat | hinside
  · exact hflat
  · obtain ⟨arguments, hmem, hwithin⟩ := hinside
    have hbare : unquotedText header.name <:+: Glyph.text header.name :=
      (header?_isFoundIn hheader).unquoted_isInfix.map Glyph.shown
    rw [hname] at hbare
    exact absurd (hbare.trans hwithin) (happart arguments hmem)

theorem flatten_body : flatten (solid printed.body) = solid printed.body :=
  flatten_of_forall printed.shown_body

theorem shown_body_ne_lineEnd : ∀ g ∈ solid printed.body, g.shown ≠ '\n' := by
  intro g hg
  obtain ⟨c, hc, rfl⟩ := List.mem_map.mp hg
  rcases printed.mem_body hc with rfl | ⟨-, hline⟩
  · decide
  · exact hline

theorem hasOpenSemicolon_body_iff :
    HasOpenSemicolon printed.body ↔
      statementDivision.SeparatesFrom 0 (Glyph.text (solid printed.body)) := by
  rw [text_solid]
  apply hasOpenSemicolon_iff
  intro c hc
  have hline : c ≠ '\n' := printed.shown_body_ne_lineEnd ⟨c, c⟩ (List.mem_map_of_mem hc)
  simp [statementDivision, endsStatement, hline]

theorem caseElements_body (hflat : ∀ attached ∈ printed.ofCase, attached.IsFlat)
    (hone : ¬ HasOpenSemicolon printed.body) :
    caseElements (solid printed.body) = [⟨solid printed.caseName.text, none⟩] := by
  rw [hasOpenSemicolon_body_iff] at hone
  have hstatements : statements (solid printed.body) = [solid printed.body] := by
    exact Division.partsFrom_eq_singleton Division.isCoarse_statementDivision
      (fun _ => printed.shown_body_ne_lineEnd) hone
  have hclause : afterCase? (solid printed.body) =
      some (solid (' ' :: (printed.caseName.text ++ [' ']))) := by
    rw [body, solid_cons, afterCase?_blank (by decide), afterCase?_caseText hflat]
  have helements : elements (solid (' ' :: (printed.caseName.text ++ [' ']))) =
      [solid (' ' :: (printed.caseName.text ++ [' ']))] := by
    have hplain : ∀ c ∈ ' ' :: (printed.caseName.text ++ [' ']), caseDivision.IsPlain c := by
      simp only [List.forall_mem_cons, List.forall_mem_append]
      exact ⟨by unfold Division.IsPlain; decide,
        fun c hc => Division.isPlain_of_isWord Division.isCoarse_caseDivision
          (printed.caseName.isWord_text c hc),
        by unfold Division.IsPlain; decide, by simp⟩
    have hparts := Division.passes_of_isPlain hplain [] []
    rw [List.append_nil, List.append_nil, Division.partsFrom, List.reverse_reverse] at hparts
    exact hparts
  have helement : element? (solid (' ' :: (printed.caseName.text ++ [' ']))) =
      some ⟨solid printed.caseName.text, none⟩ := by
    have hallows : AllowsWords Glyph.isWord := fun _ h => h
    have hblank := isBlank_of_isWord (printed.caseName.isWord_text _ (List.mem_cons_self ..))
    have htrail : EndsElement (solid [' ']) none :=
      endsElement_blanks (by unfold ShowsBlank; decide)
    apply htrail.element?_eq (spanName?_identifier hallows printed.caseName) none
    simp [skipBlanks, Glyph.isBlank, Identifier.text, hblank, show isBlank ' ' = true by decide]
  rw [caseElements, flatten_body, hstatements]
  simp only [List.filterMap_cons, List.filterMap_nil, hclause, List.flatMap_cons, List.flatMap_nil,
    helements, helement, List.append_nil]

theorem startsInside_of_body {front rest : List (Glyph Char)} {mark : Glyph Char}
    (hsplit : solid printed.body = front ++ mark :: rest) (hmark : mark.shown ∈ [';', ',']) :
    StartsInside (argumentLists printed.ofCase) rest := by
  obtain ⟨before, behind, htext, rfl, rfl⟩ := exists_of_solid_eq hsplit
  cases before with
  | nil =>
    obtain ⟨hspace, -⟩ := List.cons.inj htext
    rw [← hspace] at hmark
    exact absurd hmark (by decide)
  | cons c before => exact startsInside_of_mark (List.cons.inj htext).2 hmark

theorem mem_of_endsStatement {front rest : List (Glyph Char)} {mark : Glyph Char}
    (hsplit : solid printed.body = front ++ mark :: rest)
    (hmark : endsStatement mark.shown = true) : mark.shown = ';' := by
  have hline := printed.shown_body_ne_lineEnd mark (by simp [hsplit])
  simpa [endsStatement, hline] using hmark

theorem named_inside_or_whole {element : Element Char}
    (h : element ∈ caseElements (solid printed.body)) :
    (∃ arguments ∈ argumentLists printed.ofCase, Glyph.text element.name <:+: arguments.text) ∨
      (∀ attached ∈ printed.ofCase, attached.IsFlat) ∧ ¬ HasOpenSemicolon printed.body := by
  obtain ⟨clause, hclause, helement⟩ := List.mem_flatMap.mp h
  obtain ⟨statement, hstatement, hcase⟩ := List.mem_filterMap.mp hclause
  obtain ⟨part, hpart, helement⟩ := List.mem_filterMap.mp helement
  rw [flatten_body, statements_eq] at hstatement
  obtain ⟨above, below, hbody, habove, hbelow⟩ := Division.exists_of_mem_parts hstatement
  obtain ⟨consumed, hconsumed⟩ := afterCase?_suffix hcase
  obtain ⟨front, back, hsplit, hfront, -⟩ := Division.exists_of_mem_parts hpart
  have hinside (hstarts : StartsInside (argumentLists printed.ofCase) part) :=
    hstarts.namesInside part (List.prefix_refl part) element helement
  rcases List.eq_nil_or_concat front with rfl | ⟨before, mark, rfl⟩
  · have hprefix : part <+: clause := ⟨back, hsplit.symm⟩
    rcases List.eq_nil_or_concat above with rfl | ⟨before, mark, rfl⟩
    · have hmark : ∀ g ∈ below.head?, g.shown = ';' := by
        intro g hg
        obtain ⟨rest, hcons⟩ : ∃ rest, below = g :: rest := ⟨_, List.eq_cons_of_mem_head? hg⟩
        rw [hcons] at hbody
        exact printed.mem_of_endsStatement hbody (hbelow g hg)
      cases statement with
      | nil => simp [afterCase?_of_showsBlank (List.forall_mem_nil _)] at hcase
      | cons g more =>
        obtain ⟨rfl, hmore⟩ := List.cons.inj hbody
        rw [afterCase?_blank (by decide)] at hcase
        rcases namesInside_or_isFlat hmore hmark hcase with hnames | ⟨hflat, rfl⟩
        · exact .inl (hnames part hprefix element helement)
        · refine .inr ⟨hflat, fun hopen => ?_⟩
          have hlt := Division.length_lt_of_mem_partsFrom Division.isCoarse_statementDivision
            (fun _ => printed.shown_body_ne_lineEnd) (printed.hasOpenSemicolon_body_iff.mp hopen)
            hstatement
          rw [hbody] at hlt
          simp at hlt
    · left
      have hmark := habove mark (by simp)
      have hwhole : solid printed.body = before ++ mark :: (statement ++ below) := by
        simpa using hbody
      have hstarts := printed.startsInside_of_body hwhole
        (by simp [printed.mem_of_endsStatement hwhole hmark])
      have hclause := (hstarts.of_prefix (List.prefix_append statement below)).afterCase? hcase
      exact hinside (hclause.of_prefix hprefix)
  · left
    have hmark : mark.shown = ',' := by simpa [caseDivision] using hfront mark (by simp)
    have hwhole : solid printed.body =
        (above ++ (consumed ++ before)) ++ mark :: (part ++ (back ++ below)) := by
      rw [hbody, ← hconsumed, hsplit]
      simp
    have hstarts := printed.startsInside_of_body hwhole (by simp [hmark])
    exact hinside (hstarts.of_prefix (List.prefix_append part _))

theorem headers_text :
    headers printed.marker.name.text (glyphs printed.text) =
      ((header? (solid printed.afterMarker)).map fun header => (1, header)).toList := by
  rw [headers, glyphs_of_isSolid printed.isSolid_text, printed.occurrences_text]
  cases hheader : header? (solid printed.afterMarker) <;> simp [hheader]

theorem readSource_of_isFlat (h : printed.IsFlat) (file : Option (List Char)) :
    readSource printed.marker.name.text file printed.text = .ok [printed.declaration file] := by
  rw [readSource, headers_text, printed.header?_afterMarker h.marker h.further, Option.map_some,
    Option.toList_some]
  simp only [List.mapM_cons, List.mapM_nil, readDeclaration, printed.body?_afterName,
    printed.caseElements_body h.ofCase h.oneStatement, readElement, unquotedText_identifier]
  rfl

theorem unquoted_isInfix_of_mem {inside : List (Glyph Char)} {element : Element Char}
    (h : element ∈ caseElements inside) :
    unquotedText element.name <:+: Glyph.text element.name := by
  obtain ⟨part, -, helement⟩ := exists_element?_of_mem_caseElements h
  obtain ⟨rest, hspan, -⟩ := element?_eq_some_iff.mp helement
  exact (unquoted_of_spanName? isNamePart_isWord hspan).1.map Glyph.shown

theorem isFlat_of_readSource (happart : printed.NamesApart) {file : Option (List Char)}
    (h : readSource printed.marker.name.text file printed.text = .ok [printed.declaration file]) :
    printed.IsFlat := by
  obtain ⟨⟨line, _⟩, hmem, hread⟩ := exists_mem_of_mem_mapM h (List.mem_cons_self ..)
  rw [headers_text, Option.mem_toList, Option.map_eq_some_iff] at hmem
  obtain ⟨header, hheader, hpair⟩ := hmem
  obtain ⟨rfl, rfl⟩ := Prod.mk.inj hpair
  obtain ⟨inside, cases, hbody, hcases, hdeclaration⟩ := readDeclaration_eq_ok_iff.mp hread
  have hname : unquotedText header.name = printed.name.text :=
    (congrArg Declaration.name hdeclaration).symm
  have hfound : [⟨printed.caseName.text, none⟩] = cases := congrArg Declaration.cases hdeclaration
  obtain ⟨hmarker, hfurther⟩ :=
    List.forall_mem_cons.mp (printed.isFlat_of_header? happart.name hheader hname)
  rw [printed.header?_afterMarker hmarker hfurther] at hheader
  obtain rfl := Option.some.inj hheader
  obtain rfl := Except.ok.inj (printed.body?_afterName.symm.trans hbody)
  rw [← hfound] at hcases
  obtain ⟨element, helement, hreadElement⟩ :=
    exists_mem_of_mem_mapM hcases (List.mem_cons_self ..)
  obtain ⟨hcaseName, -⟩ := exists_read_of_readElement hreadElement
  rcases printed.named_inside_or_whole helement with ⟨arguments, harguments, hwithin⟩ | hwhole
  · have hbare := unquoted_isInfix_of_mem helement
    rw [← hcaseName] at hbare
    exact absurd (hbare.trans hwithin) (happart.caseName arguments harguments)
  · exact ⟨hmarker, hfurther, hwhole.1, hwhole.2⟩

end AttributedEnum

/-- An enum behind attributes is read with its case if every argument list ends at its first closing
parenthesis and no semicolon in a list ends a statement. Otherwise it is not, unless a list holds
the names. -/
theorem attributed_enum_read (printed : AttributedEnum) (file : Option (List Char)) :
    let result := readSource printed.marker.name.text file printed.text
    (printed.IsFlat → result = .ok [printed.declaration file]) ∧
      (printed.NamesApart → result = .ok [printed.declaration file] → printed.IsFlat) :=
  ⟨fun h => printed.readSource_of_isFlat h file,
    fun happart h => printed.isFlat_of_readSource happart h⟩

namespace AttributedEnum

def flatSample : AttributedEnum where
  marker := ⟨.of 'G' "odotEnum".toList (.refl true),
    some ⟨"x, y".toList, .of_forall (by decide), by decide, by decide⟩⟩
  further := [⟨.of 'f' "oo".toList (.refl true), none⟩]
  name := .of 'N' [] (.refl true)
  ofCase := [⟨.of 'b' "ar".toList (.refl true),
    some ⟨"z[0]; z".toList, .of_forall (by decide), by decide, by decide⟩⟩]
  caseName := .of 'c' [] (.refl true)
  others := by decide

def callArguments : ArgumentList where
  inner := ['f', '(', 'x', ')']
  isNested := .plain (by decide) (by decide) (.group (.of_forall (by decide : ∀ c ∈ ['x'], _)) .nil)
  notStop := by decide
  oneLine := by decide

def sampleWith (ofMarker ofCase : Option ArgumentList) : AttributedEnum where
  marker := ⟨.of 'G' "odotEnum".toList (.refl true), ofMarker⟩
  further := []
  name := .of 'N' [] (.refl true)
  ofCase := [⟨.of 'b' "ar".toList (.refl true), ofCase⟩]
  caseName := .of 'c' [] (.refl true)
  others := List.forall_mem_singleton.mpr (by decide : "bar".toList ≠ "GodotEnum".toList)

end AttributedEnum

open AttributedEnum

theorem attributed_enum_read_sample :
    flatSample.text = "@GodotEnum(x, y) @foo enum N \x7b @bar(z[0]; z) case c \x7d".toList ∧
      readSource "GodotEnum".toList none flatSample.text = .ok [flatSample.declaration none] ∧
      readSource "GodotEnum".toList none (sampleWith none (some callArguments)).text ≠
        .ok [(sampleWith none (some callArguments)).declaration none] := by
  refine ⟨by decide, (attributed_enum_read flatSample none).1 ?_, fun h => ?_⟩
  · exact ⟨by decide, by decide, by decide, by decide +kernel⟩
  · have happart : (sampleWith none (some callArguments)).NamesApart :=
      ⟨by decide +kernel, by decide +kernel⟩
    have hflat := (attributed_enum_read (sampleWith none (some callArguments)) none).2 happart h
    exact absurd hflat.ofCase (by decide)

def bracketArguments : ArgumentList where
  inner := "];".toList
  isNested := .of_forall (by decide)
  notStop := by decide
  oneLine := by decide

theorem attributed_enum_not_read :
    let ofMarker := sampleWith (some callArguments) none
    let ofCase := sampleWith none (some callArguments)
    let divided := sampleWith none (some bracketArguments)
    ofMarker.text = "@GodotEnum(f(x)) enum N \x7b @bar case c \x7d".toList ∧
      ofCase.text = "@GodotEnum enum N \x7b @bar(f(x)) case c \x7d".toList ∧
      divided.text = "@GodotEnum enum N \x7b @bar(];) case c \x7d".toList ∧
      readSource "GodotEnum".toList none ofMarker.text = .ok [] ∧
      readSource "GodotEnum".toList none ofCase.text =
        .ok [⟨.enum, "N".toList, [], none, some 1⟩] ∧
      readSource "GodotEnum".toList none divided.text =
        .ok [⟨.enum, "N".toList, [], none, some 1⟩] ∧
      ∀ printed ∈ [ofMarker, ofCase, divided],
        printed.declaration none = ⟨.enum, "N".toList, [⟨"c".toList, none⟩], none, some 1⟩ ∧
          readSource "GodotEnum".toList none printed.text ≠ .ok [printed.declaration none] := by
  decide +kernel

end EnumExport
