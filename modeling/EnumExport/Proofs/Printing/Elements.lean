import EnumExport.Proofs.Printing.Bodies
import EnumExport.Proofs.Printing.Strings

namespace EnumExport

open Glyph

inductive WrittenValue where
  | number (signed : SignedLiteral) (notOverlong : ¬ signed.literal.IsOverlong)
  | string (literal : StringLiteral)

namespace WrittenValue

def text : WrittenValue → List Char
  | number signed _ => signed.text
  | string literal => literal.text

def glyphs : WrittenValue → List (Glyph Char)
  | number signed _ => solid signed.text
  | string literal => literal.glyphs

def breaksLine : WrittenValue → Bool
  | number _ _ => false
  | string literal => literal.breaksLine

def onFirstLine : WrittenValue → List (Glyph Char)
  | number signed _ => solid signed.text
  | string literal => literal.onFirstLine

def expression : WrittenValue → Expression
  | number signed _ => signed.expression
  | string literal => .unsupported literal.firstLine

end WrittenValue

structure WrittenElement where
  name : List Char
  values : Option AssociatedValues
  rawValue : Option (Joint × WrittenValue)
  name_ne_nil : name ≠ []
  isWord_name : ∀ c ∈ name, isWord c = true

namespace WrittenElement

variable (element : WrittenElement)

def front : List Char :=
  element.name ++ ((element.values.map AssociatedValues.text).getD [] ++
    (element.rawValue.map (·.1.text '=')).getD [])

def text : List Char :=
  element.front ++ (element.rawValue.map (·.2.text)).getD []

def glyphs : List (Glyph Char) :=
  solid element.front ++ (element.rawValue.map (·.2.glyphs)).getD []

def onFirstLine : List (Glyph Char) :=
  solid element.front ++ (element.rawValue.map (·.2.onFirstLine)).getD []

def breaksLine : Bool := element.rawValue.any (·.2.breaksLine)

def seen (trail : List (Glyph Char)) : List (Glyph Char) :=
  element.onFirstLine ++ if element.breaksLine then [] else trail

def isNamed : Bool := element.name.head?.any isNameStart

def meaning : EnumCase :=
  ⟨element.name, element.rawValue.map (·.2.expression)⟩

def uptoBreak : List WrittenElement → List WrittenElement
  | [] => []
  | element :: rest => element :: if element.breaksLine then [] else uptoBreak rest

def moreText (more : List (Joint × WrittenElement)) : List Char :=
  more.flatMap fun (joint, element) => joint.text ',' ++ element.text

def moreGlyphs (more : List (Joint × WrittenElement)) : List (Glyph Char) :=
  more.flatMap fun (joint, element) => solid (joint.text ',') ++ element.glyphs

def moreSeen (trail : List (Glyph Char)) : List (Joint × WrittenElement) → List (Glyph Char)
  | [] => trail
  | (joint, next) :: more => solid (joint.text ',') ++ next.seen (moreSeen trail more)

end WrittenElement

namespace Division

theorem passes_front {division : Division} (hd : division.IsCoarse)
    (hsign : ∀ joint : Joint, division.Passes (joint.text '=')) (element : WrittenElement) :
    division.Passes element.front := by
  apply (passes_of_isPlain fun c hc => isPlain_of_isWord hd (element.isWord_name c hc)).append
  apply (passes_getD_map element.values division.passes_values).append
  exact passes_getD_map element.rawValue fun assigned => hsign assigned.1

end Division

namespace WrittenValue

variable (value : WrittenValue)

theorem crosses_glyphs (h : value.breaksLine = false) :
    statementDivision.Crosses value.glyphs := by
  cases value with
  | number signed => exact Division.passes_signed Division.isCoarse_statementDivision signed
  | string literal => exact literal.crosses_glyphs h

theorem crosses_onFirstLine : caseDivision.Crosses value.onFirstLine := by
  cases value with
  | number signed => exact Division.passes_signed Division.isCoarse_caseDivision signed
  | string literal => exact Division.crosses_of_showsStrings literal.showsStrings_onFirstLine

theorem onFirstLine_of_not_breaksLine (h : value.breaksLine = false) :
    value.onFirstLine = value.glyphs := by
  cases value with
  | number signed => rfl
  | string literal => exact literal.onFirstLine_of_not_breaksLine h

theorem glyphs_text {rest : List Char} (hrest : ∀ c ∈ rest.head?, c ≠ '"') :
    EnumExport.glyphs (value.text ++ rest) = value.glyphs ++ EnumExport.glyphs rest := by
  cases value with
  | number signed =>
    apply glyphs_append_of_isSolid
    intro c hc
    rcases SignedLiteral.mem_text hc with rfl | hc
    · decide
    · exact ⟨ne_of_holds hc (by decide), ne_of_holds hc (by decide)⟩
  | string literal => exact literal.glyphs_text hrest

theorem startsWithJoint_reverse_glyphs (before : List (Glyph Char)) :
    startsWithJoint (value.glyphs.reverse ++ before) = false := by
  cases value with
  | number signed => exact startsWithJoint_reverse signed.endsFirmly_text before
  | string literal => exact literal.startsWithJoint_reverse_glyphs before

theorem mem_glyphs {g : Glyph Char} (h : g ∈ value.glyphs) :
    g.shown = '-' ∨ g.shown = '"' ∨ isWord g.shown = true ∨ isBlank g.shown = true := by
  cases value with
  | number signed =>
    obtain ⟨c, hc, rfl⟩ := List.mem_map.mp h
    rcases SignedLiteral.mem_text hc with hc | hc
    · exact Or.inl hc
    · exact Or.inr (Or.inr (Or.inl hc))
  | string literal =>
    rcases literal.showsStrings_glyphs g h with hquote | hblank
    · exact Or.inr (Or.inl hquote)
    · exact Or.inr (Or.inr (Or.inr hblank))

theorem onFirstLine_subset : ∀ g ∈ value.onFirstLine, g ∈ value.glyphs := by
  cases value with
  | number signed => exact fun g hg => hg
  | string literal => exact fun g hg => (prefix_beforeEnd literal.glyphs).subset hg

theorem shown_ne {d : Char} (hd : d ≠ '-' ∧ d ≠ '"' ∧ isWord d = false ∧ isBlank d = false) :
    ∀ g ∈ value.glyphs, g.shown ≠ d := by
  obtain ⟨hminus, hquote, hword, hblank⟩ := hd
  intro g hg hshown
  rcases value.mem_glyphs hg with h | h | h | h
  · exact hminus (hshown.symm.trans h)
  · exact hquote (hshown.symm.trans h)
  · exact ne_of_holds h hword hshown
  · exact ne_of_holds h hblank hshown

theorem read_onFirstLine (joint : Joint) {trail : List (Glyph Char)} (htrail : AllBlank trail) :
    Expression.read ((solid joint.after.val ++ (value.onFirstLine ++ trail)).map Glyph.source) =
      .ok value.expression := by
  cases value with
  | number signed notOverlong =>
    have hread := Assignment.read_text ⟨joint, signed, notOverlong⟩ htrail
    rwa [solid_append, List.append_assoc] at hread
  | string literal =>
    rw [List.map_append, List.map_append, map_source_solid]
    exact literal.read_onFirstLine
      (fun c hc => isBlank_of_isSpacing (joint.after.property c hc)) htrail.isBlank_source

end WrittenValue

namespace WrittenElement

variable (element : WrittenElement)

theorem crosses_glyphs (h : element.breaksLine = false) :
    statementDivision.Crosses element.glyphs := by
  have hfront := Division.passes_front Division.isCoarse_statementDivision
    (fun joint => Division.passes_joint joint rfl) element
  apply Division.Crosses.append hfront
  cases hvalue : element.rawValue with
  | none => exact fun _ _ => rfl
  | some assigned => exact assigned.2.crosses_glyphs (by simpa [breaksLine, hvalue] using h)

theorem crosses_onFirstLine : caseDivision.Crosses element.onFirstLine := by
  have hfront := Division.passes_front Division.isCoarse_caseDivision
    Division.passes_equalsSign element
  apply Division.Crosses.append hfront
  cases element.rawValue with
  | none => exact fun _ _ => rfl
  | some assigned => exact assigned.2.crosses_onFirstLine

theorem onFirstLine_of_not_breaksLine (h : element.breaksLine = false) :
    element.onFirstLine = element.glyphs := by
  rw [onFirstLine, glyphs]
  cases hvalue : element.rawValue with
  | none => rfl
  | some assigned =>
    have hline := assigned.2.onFirstLine_of_not_breaksLine (by simpa [breaksLine, hvalue] using h)
    rw [Option.map_some, Option.map_some, Option.getD_some, Option.getD_some, hline]

theorem seen_of_not_breaksLine (h : element.breaksLine = false) (trail : List (Glyph Char)) :
    element.seen trail = element.glyphs ++ trail := by
  rw [seen, h, element.onFirstLine_of_not_breaksLine h, if_neg Bool.false_ne_true]

theorem seen_of_breaksLine (h : element.breaksLine = true) (trail : List (Glyph Char)) :
    element.seen trail = element.onFirstLine := by
  rw [seen, h, if_pos rfl, List.append_nil]

theorem holdsNoStop_front : HoldsNoStop element.front := by
  apply holdsNoStop_append fun c hc => isStop_of_isWord (element.isWord_name c hc)
  apply holdsNoStop_append
  · cases element.values with
    | none => exact List.forall_mem_nil _
    | some values => exact values.holdsNoStop_text
  · cases element.rawValue with
    | none => exact List.forall_mem_nil _
    | some assigned => exact holdsNoStop_joint assigned.1 (by decide)

theorem shown_ne {d : Char} (hd : d ∈ ['@', '{', '}']) : ∀ g ∈ element.glyphs, g.shown ≠ d := by
  have hall : ∀ d ∈ ['@', '{', '}'], isStop d = true ∧ d ≠ '-' ∧ d ≠ '"' ∧ isWord d = false ∧
      isBlank d = false := by decide
  obtain ⟨hstop, hvalue⟩ := hall d hd
  rw [glyphs, List.forall_mem_append]
  constructor
  · exact shown_ne_of_holdsNoStop element.holdsNoStop_front hstop
  · cases element.rawValue with
    | none => exact List.forall_mem_nil _
    | some assigned => exact assigned.2.shown_ne hvalue

theorem glyphs_text {rest : List Char} (hrest : ∀ c ∈ rest.head?, c ≠ '"') :
    EnumExport.glyphs (element.text ++ rest) = element.glyphs ++ EnumExport.glyphs rest := by
  have hfront := isSolid_of_holdsNoStop element.holdsNoStop_front
  rw [text, glyphs, List.append_assoc, List.append_assoc, glyphs_append_of_isSolid hfront]
  congr 1
  cases element.rawValue with
  | none => rfl
  | some assigned => exact assigned.2.glyphs_text hrest

theorem glyphs_moreText (more : List (Joint × WrittenElement)) {rest : List Char}
    (hrest : ∀ c ∈ rest.head?, c ≠ '"') :
    EnumExport.glyphs (moreText more ++ rest) = moreGlyphs more ++ EnumExport.glyphs rest ∧
      ∀ c ∈ (moreText more ++ rest).head?, c ≠ '"' := by
  induction more with
  | nil => exact ⟨rfl, hrest⟩
  | cons next more ih =>
    obtain ⟨joint, next⟩ := next
    obtain ⟨hmore, hhead⟩ := ih
    have hcomma : isStop ',' = false := by decide
    have hjoint := holdsNoStop_joint joint hcomma
    have htext : moreText ((joint, next) :: more) ++ rest =
        joint.text ',' ++ (next.text ++ (moreText more ++ rest)) := by simp [moreText]
    rw [htext]
    constructor
    · rw [glyphs_append_of_isSolid (isSolid_of_holdsNoStop hjoint), next.glyphs_text hhead, hmore]
      simp [moreGlyphs]
    · exact head_ne_quote_of_holdsNoStop hjoint (by simp [Joint.text])

theorem startsWithJoint_reverse_glyphs (before : List (Glyph Char)) :
    startsWithJoint (element.glyphs.reverse ++ before) = false := by
  rw [glyphs, List.reverse_append, List.append_assoc]
  cases hvalue : element.rawValue with
  | some assigned => exact assigned.2.startsWithJoint_reverse_glyphs _
  | none =>
    have hfirm : EndsFirmly element.front := by
      simp only [front, hvalue, Option.map_none, Option.getD_none, List.append_nil]
      cases element.values with
      | none =>
        rw [Option.map_none, Option.getD_none, List.append_nil]
        exact endsFirmly_of_isWord element.name_ne_nil element.isWord_name
      | some values => exact values.endsFirmly_text.append_left _
    exact startsWithJoint_reverse hfirm before

theorem exists_caseClauses_of_breaksLine (h : element.breaksLine = true)
    (before rest : List (Glyph Char)) :
    ∃ blanks, ShowsBlank blanks ∧
      caseClauses (statementDivision.partsFrom 0 before (element.glyphs ++ rest)) =
        (afterCase? (before.reverse ++ element.onFirstLine)).toList ++
          caseClauses (statementDivision.partsFrom 0 (⟨'"', '"'⟩ :: blanks) rest) := by
  have hfront := Division.passes_front Division.isCoarse_statementDivision
    (fun joint => Division.passes_joint joint rfl) element
  rw [glyphs, onFirstLine, List.append_assoc, hfront]
  cases hvalue : element.rawValue with
  | none => simp [breaksLine, hvalue] at h
  | some assigned =>
    obtain ⟨joint, value⟩ := assigned
    cases value with
    | number => simp [breaksLine, hvalue, WrittenValue.breaksLine] at h
    | string literal =>
      have hliteral : literal.breaksLine = true := by
        simpa [breaksLine, hvalue, WrittenValue.breaksLine] using h
      obtain ⟨blanks, hblanks, he⟩ := literal.exists_caseClauses_of_breaksLine hliteral
        ((solid element.front).reverse ++ before) rest
      refine ⟨blanks, hblanks, ?_⟩
      simpa [WrittenValue.glyphs, WrittenValue.onFirstLine] using he

def readValue (trail : List (Glyph Char)) : Option (List (Glyph Char)) :=
  element.rawValue.map fun assigned =>
    solid assigned.1.after.val ++ (assigned.2.onFirstLine ++ trail)

theorem exists_onFirstLine_eq {trail : List (Glyph Char)} (htrail : AllBlank trail) :
    ∃ rest, EndsElement rest (element.readValue trail) ∧
      element.onFirstLine ++ trail = solid element.name ++
        (solid ((element.values.map AssociatedValues.text).getD []) ++ rest) := by
  cases hvalue : element.rawValue with
  | none =>
    refine ⟨trail, ?_, ?_⟩
    · rw [readValue, hvalue]
      exact endsElement_blanks htrail.showsBlank
    · simp [onFirstLine, front, hvalue]
  | some assigned =>
    obtain ⟨joint, value⟩ := assigned
    refine ⟨solid joint.before.val ++
      ⟨'=', '='⟩ :: (solid joint.after.val ++ (value.onFirstLine ++ trail)), ?_, ?_⟩
    · rw [readValue, hvalue]
      apply endsElement_equalsSign (showsBlank_solid joint.before)
      simp only [List.forall_mem_append]
      refine ⟨fun g hg => ne_of_holds (showsBlank_solid joint.after g hg) (by decide), ?_,
        fun g hg => ne_of_holds (htrail.showsBlank g hg) (by decide)⟩
      exact fun g hg => value.shown_ne (by decide) g (value.onFirstLine_subset g hg)
    · simp [onFirstLine, front, hvalue, Joint.text]

theorem skipBlanks_onFirstLine (rest : List (Glyph Char)) :
    skipBlanks (element.onFirstLine ++ rest) = element.onFirstLine ++ rest := by
  obtain ⟨c, more, hname⟩ := List.exists_cons_of_ne_nil element.name_ne_nil
  have hc : isBlank c = false := isBlank_of_isWord (element.isWord_name c (by simp [hname]))
  simp [onFirstLine, front, hname, skipBlanks, Glyph.isBlank, hc]

theorem exists_identifier (h : element.isNamed = true) :
    ∃ identifier : Identifier, identifier.text = element.name := by
  obtain ⟨c, more, hname⟩ := List.exists_cons_of_ne_nil element.name_ne_nil
  have hstart : isNameStart c = true := by simpa [isNamed, hname] using h
  exact ⟨⟨c, more, hstart, fun d hd => element.isWord_name d (by simp [hname, hd])⟩, hname.symm⟩

theorem spanName?_eq_none (h : element.isNamed = false) (rest : List (Glyph Char)) :
    spanName? Glyph.isWord (solid element.name ++ rest) = none := by
  obtain ⟨c, more, hname⟩ := List.exists_cons_of_ne_nil element.name_ne_nil
  have hstart : isNameStart c = false := by simpa [isNamed, hname] using h
  have htick : isTick (⟨c, c⟩ : Glyph Char) = false := by
    have hword := element.isWord_name c (by simp [hname])
    simp [isTick, ne_of_holds hword (by decide : isWord tick = false)]
  rw [hname, solid_cons, List.cons_append, spanName?_cons, htick, if_neg Bool.false_ne_true]
  simp [spanOpened?, startsName, hstart]

def IsShownBy (part : List (Glyph Char)) : Prop :=
  ∃ lead trail, ShowsBlank lead ∧ AllBlank trail ∧ part = lead ++ (element.onFirstLine ++ trail)

theorem element?_eq_none {part : List (Glyph Char)} (h : element.isNamed = false)
    (hshows : element.IsShownBy part) : element? part = none := by
  obtain ⟨lead, trail, hlead, htrail, rfl⟩ := hshows
  obtain ⟨rest, -, hrest⟩ := element.exists_onFirstLine_eq htrail
  have hspan := element.spanName?_eq_none h
    (solid ((element.values.map AssociatedValues.text).getD []) ++ rest)
  rw [element?, skipBlanks_append_of_showsBlank hlead, element.skipBlanks_onFirstLine, hrest, hspan]
  rfl

theorem exists_element {part : List (Glyph Char)} (h : element.isNamed = true)
    (hshows : element.IsShownBy part) :
    ∃ found, element? part = some found ∧ readElement found = .ok element.meaning := by
  obtain ⟨lead, trail, hlead, htrail, rfl⟩ := hshows
  obtain ⟨rest, hends, hrest⟩ := element.exists_onFirstLine_eq htrail
  obtain ⟨identifier, hname⟩ := element.exists_identifier h
  refine ⟨⟨solid element.name, element.readValue trail⟩, ?_, ?_⟩
  · rw [← hname] at hrest ⊢
    apply hends.element?_eq (spanName?_identifier (fun _ h => h) identifier) element.values
    rw [skipBlanks_append_of_showsBlank hlead, element.skipBlanks_onFirstLine, hrest]
  · rw [readElement, ← hname, unquotedText_identifier, hname, meaning, readValue]
    cases element.rawValue with
    | none => rfl
    | some assigned =>
      simp only [Option.map_some, Option.mapM_some]
      rw [assigned.2.read_onFirstLine assigned.1 htrail]
      rfl

theorem mapM_readElement {parts : List (List (Glyph Char))} {elements : List WrittenElement}
    (h : List.Forall₂ (fun part element => element.IsShownBy part) parts elements) :
    (parts.filterMap element?).mapM readElement =
      .ok ((elements.filter isNamed).map meaning) := by
  induction h with
  | nil => rfl
  | @cons part element parts elements hshows _ ih =>
    cases hnamed : element.isNamed with
    | true =>
      obtain ⟨found, hfound, hread⟩ := element.exists_element hnamed hshows
      rw [List.filterMap_cons_some hfound, List.mapM_cons, hread, ih,
        List.filter_cons_of_pos hnamed]
      rfl
    | false =>
      rw [List.filterMap_cons_none (element.element?_eq_none hnamed hshows), ih,
        List.filter_cons_of_neg (by simp [hnamed])]

theorem partsFrom_last {gs trail : List (Glyph Char)} (hgs : caseDivision.Crosses gs)
    (htrail : ShowsBlank trail) (lead : List (Glyph Char)) :
    caseDivision.partsFrom 0 lead.reverse (gs ++ trail) = [lead ++ (gs ++ trail)] := by
  have hblanks := Division.crosses_of_showsBlank htrail (gs.reverse ++ lead.reverse) []
  rw [List.append_nil] at hblanks
  rw [hgs, hblanks, Division.partsFrom]
  simp

theorem forall₂_partsFrom_seen {lead trail : List (Glyph Char)} (hlead : ShowsBlank lead)
    (htrail : element.breaksLine = true ∨ AllBlank trail) :
    List.Forall₂ (fun part element => element.IsShownBy part)
      (caseDivision.partsFrom 0 lead.reverse (element.seen trail)) [element] := by
  have hblank : AllBlank (if element.breaksLine then [] else trail) := by
    split
    · exact List.forall_mem_nil _
    · rename_i hbreaks
      exact htrail.resolve_left hbreaks
  rw [seen, partsFrom_last element.crosses_onFirstLine hblank.showsBlank]
  exact .cons ⟨lead, _, hlead, hblank, rfl⟩ .nil

theorem forall₂_partsFrom_moreSeen (more : List (Joint × WrittenElement))
    {lead trail : List (Glyph Char)} (hlead : ShowsBlank lead) (htrail : AllBlank trail) :
    List.Forall₂ (fun part element => element.IsShownBy part)
      (caseDivision.partsFrom 0 lead.reverse (element.seen (moreSeen trail more)))
      (uptoBreak (element :: more.map Prod.snd)) := by
  induction more generalizing element lead with
  | nil =>
    have hlast := element.forall₂_partsFrom_seen hlead (Or.inr htrail)
    simpa [uptoBreak, moreSeen] using hlast
  | cons next more ih =>
    obtain ⟨joint, next⟩ := next
    cases hbreaks : element.breaksLine with
    | true =>
      -- Nothing behind the break is seen, so this part is the last one.
      have hone (rest : List WrittenElement) : uptoBreak (element :: rest) = [element] := by
        simp [uptoBreak, hbreaks]
      rw [hone]
      exact element.forall₂_partsFrom_seen hlead (Or.inl hbreaks)
    | false =>
      have hbefore := allBlank_solid joint.before.property
      have hafter := showsBlank_solid joint.after
      have hseen : element.seen (moreSeen trail ((joint, next) :: more)) =
          element.onFirstLine ++ (solid joint.before.val ++ (⟨',', ','⟩ ::
            (solid joint.after.val ++ next.seen (moreSeen trail more)))) := by
        simp [moreSeen, seen, hbreaks, Joint.text]
      have hrest := ih next hafter
      rw [hseen, element.crosses_onFirstLine, Division.crosses_of_showsBlank hbefore.showsBlank,
        Division.partsFrom_comma, Division.crosses_of_showsBlank hafter]
      simp only [List.map_cons, uptoBreak, hbreaks, Bool.false_eq_true, if_false]
      refine .cons ⟨lead, solid joint.before.val, hlead, hbefore, by simp⟩ ?_
      simpa [uptoBreak] using hrest

end WrittenElement

end EnumExport
