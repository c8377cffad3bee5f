import EnumExport.Proofs.Printing.Statements
import EnumExport.Proofs.Reading.Extension
import Mathlib.Data.List.DropRight

namespace EnumExport

open Glyph

def caseDivision : Division := ⟨(· == ','), false⟩

theorem elements_eq (statement : List (Glyph Char)) :
    elements statement = caseDivision.parts statement := rfl

namespace Division

theorem isCoarse_caseDivision : caseDivision.IsCoarse := by
  intro c hc
  have hc : c = ',' := by simpa [caseDivision] using hc
  rw [hc]
  decide

theorem isPlain_caseDivision_of_isBlank {c : Char} (h : isBlank c = true) :
    caseDivision.IsPlain c := by
  by_cases hline : c = '\n'
  · rw [hline]
    exact ⟨by decide, by decide, by decide⟩
  · exact isPlain_of_isBlank isCoarse_caseDivision h hline

theorem crosses_of_showsBlank {blanks : List (Glyph Char)} (h : ShowsBlank blanks) :
    caseDivision.Crosses blanks :=
  crosses_of_isPlain fun g hg => isPlain_caseDivision_of_isBlank (h g hg)

theorem partsFrom_comma (before rest : List (Glyph Char)) :
    caseDivision.partsFrom 0 before (⟨',', ','⟩ :: rest) =
      before.reverse :: caseDivision.partsFrom 0 [] rest := by
  simp [partsFrom, opensGroup, closesGroup, separatesAt, caseDivision]

theorem passes_equalsSign (joint : Joint) : caseDivision.Passes (joint.text '=') := by
  intro before rest
  have hbefore := crosses_of_showsBlank (showsBlank_solid joint.before)
  have hafter := crosses_of_showsBlank (showsBlank_solid joint.after)
  have hsign : caseDivision.IsPlain '=' := isPlain_of_not_mem isCoarse_caseDivision (by decide)
  rw [Joint.text, solid_append, solid_cons, List.append_assoc, List.cons_append, hbefore,
    partsFrom_of_isPlain hsign, hafter]
  simp

end Division

def Shows (part : List (Glyph Char)) (printed : PrintedCase) : Prop :=
  ∃ lead trail, AllBlank lead ∧ AllBlank trail ∧ part = lead ++ (solid printed.text ++ trail)

theorem forall₂_shows_partsFrom (printed : PrintedCase) (more : List (Joint × PrintedCase))
    {lead trail : List (Glyph Char)} (hlead : AllBlank lead) (htrail : AllBlank trail) :
    List.Forall₂ Shows
      (caseDivision.partsFrom 0 (lead ++ solid printed.text).reverse
        (solid (PrintedStatement.moreText more) ++ trail))
      (printed :: more.map Prod.snd) := by
  induction more generalizing printed lead with
  | nil =>
    have hparts := Division.crosses_of_showsBlank htrail.showsBlank
      (lead ++ solid printed.text).reverse []
    rw [List.append_nil] at hparts
    simp only [PrintedStatement.moreText, List.flatMap_nil, solid_nil, List.nil_append, hparts]
    refine .cons ⟨lead, trail, hlead, htrail, ?_⟩ .nil
    simp
  | cons next more ih =>
    obtain ⟨joint, next⟩ := next
    have hbefore := allBlank_solid joint.before.property
    have hafter := allBlank_solid joint.after.property
    have hpasses := Division.passes_case Division.isCoarse_caseDivision
      Division.passes_equalsSign next
    have htext : solid (PrintedStatement.moreText ((joint, next) :: more)) ++ trail =
        solid joint.before.val ++ (⟨',', ','⟩ :: (solid joint.after.val ++
          (solid next.text ++ (solid (PrintedStatement.moreText more) ++ trail)))) := by
      simp [PrintedStatement.moreText, Joint.text]
    rw [htext, Division.crosses_of_showsBlank hbefore.showsBlank, Division.partsFrom_comma,
      Division.crosses_of_showsBlank hafter.showsBlank, hpasses]
    refine .cons ⟨lead, solid joint.before.val, hlead, hbefore, ?_⟩ ?_
    · simp
    · have hrest := ih next hafter
      simpa using hrest

theorem forall₂_shows_elements (statement : PrintedStatement) {trail : List (Glyph Char)}
    (htrail : AllBlank trail) :
    List.Forall₂ Shows (elements (solid statement.afterKeyword ++ trail)) statement.cases := by
  have hspaces := allBlank_spaces statement.moreSpaces
  have hpasses := Division.passes_case Division.isCoarse_caseDivision
    Division.passes_equalsSign statement.first
  have hshows := forall₂_shows_partsFrom statement.first statement.more hspaces htrail
  rw [elements_eq, Division.parts, PrintedStatement.afterKeyword, solid_append, solid_append,
    List.append_assoc, List.append_assoc, Division.crosses_of_showsBlank hspaces.showsBlank,
    hpasses]
  simpa [PrintedStatement.cases] using hshows

theorem trim_append {lead text trail : List Char} (hlead : ∀ c ∈ lead, isBlank c = true)
    (htrail : ∀ c ∈ trail, isBlank c = true) (hne : text ≠ [])
    (hhead : ∀ c ∈ text.head?, isBlank c = false)
    (hlast : ∀ c ∈ text.getLast?, isBlank c = false) : trim (lead ++ (text ++ trail)) = text := by
  have hfirst : ∀ c ∈ (text ++ trail).head?, isBlank c = false := by
    rwa [List.head?_append_of_ne_nil _ hne]
  have hreverse : ∀ c ∈ trail.reverse, isBlank c = true :=
    fun c hc => htrail c (List.mem_reverse.mp hc)
  rw [trim, trimStart, dropWhile_append_of_stop hlead hfirst, trimEnd, List.reverse_append,
    dropWhile_append_of_stop hreverse (by rwa [List.head?_reverse]), List.reverse_reverse]

theorem Assignment.read_text (assignment : Assignment) {trail : List (Glyph Char)}
    (htrail : AllBlank trail) :
    Expression.read ((solid (assignment.joint.after.val ++ assignment.signed.text) ++ trail).map
      Glyph.source) = .ok assignment.signed.expression := by
  have hne : assignment.signed.text ≠ [] := by
    rw [SignedLiteral.text]
    split <;> simp [IntegerLiteral.text]
  have htext : ∀ c ∈ assignment.signed.text, isBlank c = false := by
    intro c hc
    rcases SignedLiteral.mem_text hc with rfl | hc
    · decide
    · exact isBlank_of_isWord hc
  have hafter : ∀ c ∈ assignment.joint.after.val, isBlank c = true :=
    fun c hc => isBlank_of_isSpacing (assignment.joint.after.property c hc)
  have htrim := trim_append hafter htrail.isBlank_source hne
    (fun c hc => htext c (List.mem_of_mem_head? hc))
    (fun c hc => htext c (List.mem_of_mem_getLast? hc))
  rw [List.map_append, map_source_solid, List.append_assoc]
  exact Expression.read_of_trim htrim assignment.notOverlong

def EndsName (more : Glyph Char → Bool) (rest : List (Glyph Char)) : Prop :=
  ∀ g ∈ rest.head?, more g = false ∧ g.isTick = false

def AllowsWords (more : Glyph Char → Bool) : Prop := ∀ c, isWord c = true → more ⟨c, c⟩ = true

theorem AllowsWords.identifier {more : Glyph Char → Bool} (hmore : AllowsWords more)
    (name : Identifier) : ∀ g ∈ solid name.text, more g = true := by
  intro g hg
  obtain ⟨c, hc, rfl⟩ := List.mem_map.mp hg
  exact hmore c (name.isWord_text c hc)

theorem startsName_identifier (name : Identifier) (rest : List (Glyph Char)) :
    startsName (solid name.text ++ rest) = true := name.isNameStart_first

theorem spanName?_identifier {more : Glyph Char → Bool} (hmore : AllowsWords more)
    (name : Identifier) {rest : List (Glyph Char)} (hrest : EndsName more rest) :
    spanName? more (solid name.text ++ rest) = some (solid name.text, rest) := by
  have hopened : spanOpened? more [] (solid name.text ++ rest) = some (solid name.text, rest) := by
    have hstop : ∀ g ∈ rest.head?, more g = false := fun g hg => (hrest g hg).1
    rw [spanOpened?, if_pos (startsName_identifier name rest),
      takeWhile_append_of_stop (hmore.identifier name) hstop,
      dropWhile_append_of_stop (hmore.identifier name) hstop]
    cases rest with
    | nil => rfl
    | cons g rest =>
      have hg := (hrest g rfl).2
      simp [hg]
  have htick : isTick (⟨name.first, name.first⟩ : Glyph Char) = false := by
    have hword := name.isWord_text _ (List.mem_cons_self ..)
    simp [isTick, ne_of_holds hword (by decide : isWord tick = false)]
  rw [Identifier.text, solid_cons, List.cons_append] at hopened ⊢
  rw [spanName?_cons, htick, if_neg Bool.false_ne_true, hopened]

theorem spanName?_ticked {more : Glyph Char → Bool} (hmore : AllowsWords more)
    (htick : more ⟨tick, tick⟩ = false) (name : Identifier)
    (rest : List (Glyph Char)) :
    spanName? more (solid (tick :: name.text ++ [tick]) ++ rest) =
      some (solid (tick :: name.text ++ [tick]), rest) := by
  have htick' : isTick (⟨tick, tick⟩ : Glyph Char) = true := by decide
  have hstop : ∀ g ∈ (⟨tick, tick⟩ :: rest).head?, more g = false := by
    intro g hg
    obtain rfl := Option.some.inj hg
    exact htick
  simp only [List.cons_append, solid_cons, solid_append, solid_nil, List.append_assoc,
    List.nil_append]
  rw [spanName?_cons, if_pos htick', spanOpened?, if_pos (startsName_identifier name _),
    takeWhile_append_of_stop (hmore.identifier name) hstop,
    dropWhile_append_of_stop (hmore.identifier name) hstop]
  simp [htick']

theorem PrintedCase.spanName?_text (printed : PrintedCase) {rest : List (Glyph Char)}
    (hrest : EndsName Glyph.isWord rest) :
    spanName? Glyph.isWord (solid printed.writtenName ++ rest) =
      some (solid printed.writtenName, rest) := by
  have hmore : AllowsWords Glyph.isWord := fun _ h => h
  rw [writtenName]
  split
  · exact spanName?_ticked hmore (by decide) printed.name rest
  · exact spanName?_identifier hmore printed.name hrest

theorem filter_isTick_identifier (name : Identifier) :
    (solid name.text).filter (!·.isTick) = solid name.text := by
  rw [List.filter_eq_self]
  intro g hg
  obtain ⟨c, hc, rfl⟩ := List.mem_map.mp hg
  have hword := name.isWord_text c hc
  simp [isTick, ne_of_holds hword (by decide : isWord tick = false)]

theorem unquotedText_identifier (name : Identifier) :
    unquotedText (solid name.text) = name.text := by
  rw [unquotedText, filter_isTick_identifier, text_solid]

theorem PrintedCase.unquotedText_writtenName (printed : PrintedCase) :
    unquotedText (solid printed.writtenName) = printed.name.text := by
  have htick : isTick (⟨tick, tick⟩ : Glyph Char) = true := by decide
  rw [writtenName]
  split
  · simp [unquotedText, filter_isTick_identifier, htick]
  · exact unquotedText_identifier printed.name

theorem elementEnd?_of_skipBlanks {gs rest : List (Glyph Char)}
    (h : skipBlanks gs = skipBlanks rest) : elementEnd? gs = elementEnd? rest := by
  rw [elementEnd?, elementEnd?, h]

theorem skipBlanks_skipBlanks (gs : List (Glyph Char)) :
    skipBlanks (skipBlanks gs) = skipBlanks gs :=
  List.dropWhile_idempotent _ _

theorem element?_of_elementEnd? {gs name rest : List (Glyph Char)}
    (hspan : spanName? Glyph.isWord (skipBlanks gs) = some (name, rest))
    (hparen : ∀ g ∈ (skipBlanks rest).head?, g.shown ≠ '(') :
    element? gs = (elementEnd? rest).map (⟨name, ·⟩) := by
  rw [element?, hspan]
  cases hs : skipBlanks rest with
  | nil => simp [elementEnd?, hs]
  | cons g tail =>
    have hg : g.shown ≠ '(' := hparen g (by rw [hs]; rfl)
    have hend : elementEnd? (g :: tail) = elementEnd? rest := by
      apply elementEnd?_of_skipBlanks
      rw [← hs, skipBlanks_skipBlanks]
    cases he : elementEnd? rest <;> simp [hs, hg, hend, he]

theorem element?_of_associatedEnd? {gs name rest tail : List (Glyph Char)} {g : Glyph Char}
    (hspan : spanName? Glyph.isWord (skipBlanks gs) = some (name, rest))
    (hrest : skipBlanks rest = g :: tail) (hparen : g.shown = '(') :
    element? gs = (associatedEnd? tail).map (⟨name, ·⟩) := by
  rw [element?, hspan]
  cases he : associatedEnd? tail <;> simp [hrest, hparen, he]

theorem associatedEnd?_eq_none {gs : List (Glyph Char)} (h : ∀ g ∈ gs, g.shown ≠ ')') :
    associatedEnd? gs = none := by
  induction gs with
  | nil => rfl
  | cons g gs ih =>
    have hg := h g (List.mem_cons_self ..)
    simp [associatedEnd?, hg, ih fun d hd => h d (List.mem_cons_of_mem _ hd)]

theorem associatedEnd?_append {inner rest : List (Glyph Char)} {g : Glyph Char}
    {rawValue : Option (List (Glyph Char))} (hg : g.shown = ')')
    (hrest : ∀ d ∈ rest, d.shown ≠ ')') (hend : elementEnd? rest = some rawValue) :
    associatedEnd? (inner ++ g :: rest) = some rawValue := by
  -- An end may fit behind an earlier parenthesis too, but the last one is tried first.
  induction inner with
  | nil => simp [associatedEnd?, associatedEnd?_eq_none hrest, hg, hend]
  | cons d inner ih =>
    rw [List.cons_append, associatedEnd?, ih, Option.some_or]

structure EndsElement (rest : List (Glyph Char)) (rawValue : Option (List (Glyph Char))) :
    Prop where
  endsName : EndsName Glyph.isWord rest
  shown_ne : ∀ g ∈ rest, g.shown ≠ ')'
  elementEnd?_eq : elementEnd? rest = some rawValue

theorem endsName_of_isBlank {g : Glyph Char} {rest : List (Glyph Char)}
    (h : isBlank g.shown = true) : EndsName Glyph.isWord (g :: rest) := by
  intro d hd
  obtain rfl := Option.some.inj hd
  have htick : g.shown ≠ tick := ne_of_holds h (by decide)
  exact ⟨isWord_of_isBlank h, by simp [isTick, htick]⟩

theorem endsElement_blanks {trail : List (Glyph Char)} (h : ShowsBlank trail) :
    EndsElement trail none where
  endsName := by
    cases trail with
    | nil => simp [EndsName]
    | cons g trail => exact endsName_of_isBlank (h g (List.mem_cons_self ..))
  shown_ne g hg := ne_of_holds (h g hg) (by decide)
  elementEnd?_eq := by rw [elementEnd?, skipBlanks_of_showsBlank h]

theorem endsElement_equalsSign {blanks rawValue : List (Glyph Char)} (h : ShowsBlank blanks)
    (hrawValue : ∀ g ∈ rawValue, g.shown ≠ ')') :
    EndsElement (blanks ++ ⟨'=', '='⟩ :: rawValue) (some rawValue) where
  endsName := by
    cases blanks with
    | nil =>
      intro g hg
      obtain rfl := Option.some.inj hg
      decide
    | cons g blanks => exact endsName_of_isBlank (h g (List.mem_cons_self ..))
  shown_ne := by
    simp only [List.forall_mem_append, List.forall_mem_cons]
    exact ⟨fun g hg => ne_of_holds (h g hg) (by decide), by decide, hrawValue⟩
  elementEnd?_eq := by
    rw [elementEnd?, skipBlanks_append_of_showsBlank h]
    rfl

theorem EndsElement.element?_eq {gs name rest : List (Glyph Char)}
    {rawValue : Option (List (Glyph Char))}
    (h : EndsElement rest rawValue)
    (hspan : ∀ {rest : List (Glyph Char)}, EndsName Glyph.isWord rest →
      spanName? Glyph.isWord (name ++ rest) = some (name, rest))
    (values : Option AssociatedValues)
    (hgs : skipBlanks gs = name ++ (solid ((values.map AssociatedValues.text).getD []) ++ rest)) :
    element? gs = some ⟨name, rawValue⟩ := by
  cases values with
  | none =>
    simp only [Option.map_none, Option.getD_none, solid_nil, List.nil_append] at hgs
    have hname := hspan h.endsName
    rw [← hgs] at hname
    rw [element?_of_elementEnd? hname, h.elementEnd?_eq, Option.map_some]
    intro g hg hparen
    have hend := h.elementEnd?_eq
    cases hs : skipBlanks rest with
    | nil => simp [hs] at hg
    | cons d tail =>
      obtain rfl : d = g := by simpa [hs] using hg
      simp [elementEnd?, hs, hparen] at hend
  | some values =>
    have htext : solid values.text ++ rest =
        ⟨'(', '('⟩ :: (solid values.inner ++ ⟨')', ')'⟩ :: rest) := by
      simp [AssociatedValues.text]
    rw [Option.map_some, Option.getD_some, htext] at hgs
    have hends :
        EndsName Glyph.isWord (⟨'(', '('⟩ :: (solid values.inner ++ ⟨')', ')'⟩ :: rest)) := by
      intro g hg
      obtain rfl := Option.some.inj hg
      decide
    have hname := hspan hends
    rw [← hgs] at hname
    rw [element?_of_associatedEnd? hname rfl rfl,
      associatedEnd?_append rfl h.shown_ne h.elementEnd?_eq, Option.map_some]

namespace PrintedCase

variable (printed : PrintedCase)

def rawValue (trail : List (Glyph Char)) : Option (List (Glyph Char)) :=
  printed.assignment.map fun assignment =>
    solid (assignment.joint.after.val ++ assignment.signed.text) ++ trail

def afterValues : List Char := (printed.assignment.map Assignment.text).getD []

theorem endsElement_afterValues {trail : List (Glyph Char)} (htrail : AllBlank trail) :
    EndsElement (solid printed.afterValues ++ trail) (printed.rawValue trail) := by
  rw [afterValues, rawValue]
  cases printed.assignment with
  | none => exact endsElement_blanks htrail.showsBlank
  | some assignment =>
    have htext : solid assignment.text ++ trail =
        solid assignment.joint.before.val ++ (⟨'=', '='⟩ ::
          (solid (assignment.joint.after.val ++ assignment.signed.text) ++ trail)) := by
      simp [Assignment.text, Joint.text]
    rw [Option.map_some, Option.getD_some, htext]
    apply endsElement_equalsSign (showsBlank_solid assignment.joint.before)
    intro g hg
    rcases List.mem_append.mp hg with hg | hg
    · obtain ⟨c, hc, rfl⟩ := List.mem_map.mp hg
      rcases List.mem_append.mp hc with hc | hc
      · exact ne_of_holds (assignment.joint.after.property c hc) (by decide)
      · rcases SignedLiteral.mem_text hc with rfl | hc
        · decide
        · exact ne_of_holds hc (by decide)
    · exact ne_of_holds (htrail g hg).1 (by decide)

theorem skipBlanks_writtenName (rest : List (Glyph Char)) :
    skipBlanks (solid printed.writtenName ++ rest) = solid printed.writtenName ++ rest := by
  have hne : printed.writtenName ≠ [] := by
    rw [writtenName]
    split <;> simp [Identifier.text]
  obtain ⟨c, text, hname⟩ := List.exists_cons_of_ne_nil hne
  have hc : isBlank c = false := by
    have hmem : c ∈ printed.writtenName := by simp [hname]
    rcases mem_writtenName hmem with rfl | h
    · decide
    · exact isBlank_of_isWord h
  simp [hname, skipBlanks, Glyph.isBlank, hc]

theorem text_eq : printed.text =
    printed.writtenName ++ ((printed.values.map AssociatedValues.text).getD [] ++
      printed.afterValues) := rfl

theorem element?_text {trail : List (Glyph Char)} (htrail : AllBlank trail) {gs : List (Glyph Char)}
    (hgs : skipBlanks gs = solid printed.text ++ trail) :
    element? gs = some ⟨solid printed.writtenName, printed.rawValue trail⟩ := by
  apply (printed.endsElement_afterValues htrail).element?_eq printed.spanName?_text printed.values
  rw [hgs, text_eq, solid_append, solid_append, List.append_assoc, List.append_assoc]

theorem exists_element {part : List (Glyph Char)} (h : Shows part printed) :
    ∃ element, element? part = some element ∧ readElement element = .ok printed.meaning := by
  obtain ⟨lead, trail, hlead, htrail, rfl⟩ := h
  refine ⟨⟨solid printed.writtenName, printed.rawValue trail⟩, ?_, ?_⟩
  · apply printed.element?_text htrail
    rw [skipBlanks_append_of_showsBlank hlead.showsBlank, text_eq, solid_append, List.append_assoc,
      skipBlanks_writtenName]
  · rw [readElement, unquotedText_writtenName, meaning, rawValue]
    cases printed.assignment with
    | none => rfl
    | some assignment =>
      simp only [Option.map_some, Option.mapM_some]
      rw [assignment.read_text htrail]
      rfl

end PrintedCase

theorem mapM_readElement {parts : List (List (Glyph Char))} {cases : List PrintedCase}
    (h : List.Forall₂ Shows parts cases) :
    (parts.filterMap element?).mapM readElement = .ok (cases.map PrintedCase.meaning) := by
  induction h with
  | nil => rfl
  | @cons part printed parts cases hshows _ ih =>
    obtain ⟨element, helement, hread⟩ := printed.exists_element hshows
    rw [List.filterMap_cons_some helement, List.mapM_cons, hread, ih]
    rfl

theorem PrintedStatement.mapM_readElement (statement : PrintedStatement)
    {trail : List (Glyph Char)} (htrail : AllBlank trail) :
    ((elements (solid statement.afterKeyword ++ trail)).filterMap element?).mapM readElement =
      .ok (statement.cases.map PrintedCase.meaning) :=
  EnumExport.mapM_readElement (forall₂_shows_elements statement htrail)

end EnumExport
