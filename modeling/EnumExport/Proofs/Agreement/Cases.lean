import EnumExport.Proofs.Agreement.Stretches
import EnumExport.Proofs.Printing.Cases

namespace EnumExport

open Glyph

structure CaseOutline where
  name : List Char
  value : Option (Option Int)
deriving DecidableEq, Repr

/-- What counts of a case for its values: the name, whether there is a raw value, and the number
that this is. -/
def EnumCase.outline (c : EnumCase) : CaseOutline := ⟨c.name, c.rawValue.map Expression.eval?⟩

namespace Agrees

variable {loose veiled : Bool} {gs hs : List (Glyph Char)}

theorem word (h : Agrees false veiled gs hs) :
    leadingWord gs = leadingWord hs ∧
      ∃ veiled, Agrees false veiled (afterWord gs) (afterWord hs) := by
  induction gs generalizing veiled hs with
  | nil =>
    cases h
    exact ⟨rfl, true, .nil⟩
  | cons g gs ih =>
    cases h with
    | @both _ _ _ d _ hs hshown hsource hrest =>
      by_cases hg : Glyph.isWord g = true
      · have hd : Glyph.isWord d = true := by rwa [Glyph.isWord, ← hshown]
        rw [isBlank_of_isWord hg] at hrest
        obtain ⟨hword, hafter⟩ := ih hrest
        have hleading : leadingWord (g :: gs) = g.shown :: leadingWord gs := by
          simp [leadingWord, text, hg]
        have hleading' : leadingWord (d :: hs) = d.shown :: leadingWord hs := by
          simp [leadingWord, text, hd]
        rw [hleading, hleading', hword, hshown]
        refine ⟨rfl, ?_⟩
        simpa [afterWord, hg, hd] using hafter
      · have hd : ¬ Glyph.isWord d = true := by rwa [Glyph.isWord, ← hshown]
        refine ⟨by simp [leadingWord, hg, hd], veiled, ?_⟩
        simpa [afterWord, hg, hd] using Agrees.both hshown hsource hrest

theorem startsName_eq (h : Agrees false veiled gs hs) : startsName gs = startsName hs := by
  rcases h.tight_cases with ⟨rfl, rfl⟩ | ⟨g, d, gs', hs', rfl, rfl, hshown, -⟩
  · rfl
  · exact congrArg isNameStart hshown

theorem afterBlanks? (h : Agrees false veiled gs hs) :
    Option.Rel (Agrees false true) (afterBlanks? gs) (afterBlanks? hs) := by
  rcases h.tight_cases with ⟨rfl, rfl⟩ | ⟨g, d, gs', hs', rfl, rfl, hshown, hrest⟩
  · exact .none
  · obtain ⟨veiled', hskip⟩ := hrest.skipBlanks
    have hd : d.isBlank = g.isBlank := congrArg EnumExport.isBlank hshown.symm
    rw [Glyph.afterBlanks?, Glyph.afterBlanks?, hd]
    split
    · exact .some (hskip.mono id fun _ => rfl)
    · exact .none

theorem afterGroup? (h : Agrees loose veiled gs hs) :
    Option.Rel (Agrees false true) (afterGroup? gs) (afterGroup? hs) := by
  rw [Glyph.afterGroup?, Glyph.afterGroup?]
  cases hgs : Glyph.skipBlanks gs with
  | nil =>
    rw [h.skipBlanks_nil hgs]
    exact .none
  | cons g rest =>
    obtain ⟨d, rest', _, hhs, hshown, -, hrest⟩ := h.skipBlanks_cons hgs
    rw [hhs]
    simp only [← hshown]
    split
    · have hp : ∀ c, isBlank c = true → (c != ')') = true := by
        intro c hc
        simpa using ne_of_holds hc (by decide)
      obtain ⟨veiled', hclose⟩ := hrest.dropWhile hp
      rcases hclose.tight_cases with ⟨hnil, hnil'⟩ | ⟨c, e, gs', hs', hgs', hhs', -, hafter⟩
      · rw [hnil, hnil']
        exact .none
      · have hc : c.shown = ')' := by
          have hnot := List.head?_dropWhile_not (fun g : Glyph Char => g.shown != ')') rest
          rw [hgs'] at hnot
          simpa using hnot
        have hblank : EnumExport.isBlank c.shown = false := by
          rw [hc]
          decide
        rw [hblank] at hafter
        rw [hgs', hhs']
        exact .some (hafter.mono id fun _ => rfl)
    · exact .none

theorem afterOptionalGroup (h : Agrees false veiled gs hs) :
    Agrees false true (afterOptionalGroup gs) (afterOptionalGroup hs) := by
  have hgroup := h.afterGroup?
  rw [Glyph.afterOptionalGroup, Glyph.afterOptionalGroup]
  generalize Glyph.afterGroup? gs = found at hgroup ⊢
  generalize Glyph.afterGroup? hs = found' at hgroup ⊢
  cases hgroup with
  | none => exact h.mono id fun _ => rfl
  | some hrest => exact hrest

theorem afterCaseWord? (h : Agrees false veiled gs hs) :
    Option.Rel (Agrees false true) (afterCaseWord? gs) (afterCaseWord? hs) := by
  obtain ⟨hleading, veiled', hafter⟩ := h.word
  simp only [EnumExport.afterCaseWord?, ← hleading]
  split
  · exact .some (hafter.mono id fun _ => rfl)
  · split
    · have hblanks := hafter.afterBlanks?
      generalize Glyph.afterBlanks? (afterWord gs) = found at hblanks ⊢
      generalize Glyph.afterBlanks? (afterWord hs) = found' at hblanks ⊢
      cases hblanks with
      | none => exact .none
      | some hrest =>
        obtain ⟨hleading', veiled'', hafter'⟩ := hrest.word
        simp only [Option.bind_eq_bind, Option.bind_some, ← hleading']
        split
        · exact .some (hafter'.mono id fun _ => rfl)
        · exact .none
    · exact .none

theorem or {first second first' second' : Option (List (Glyph Char))}
    (h : Option.Rel (Agrees false true) first first')
    (hsecond : Option.Rel (Agrees false true) second second') :
    Option.Rel (Agrees false true) (first.or second) (first'.or second') := by
  cases h with
  | none => exact hsecond
  | some h => exact .some h

theorem afterCase? (h : Agrees loose veiled gs hs) :
    Option.Rel (Agrees false true) (afterCase? gs) (afterCase? hs) := by
  -- Along the attributes in front of the word: `case2` is one of them, with what follows it.
  induction gs using EnumExport.afterCase?.induct generalizing loose veiled hs with
  | case1 gs hgs =>
    rw [afterCase?_eq_none hgs, afterCase?_eq_none (h.skipBlanks_nil hgs)]
    exact .none
  | case2 gs g rest hgs hat hname after =>
    rename_i ih
    obtain ⟨d, rest', _, hhs, hshown, -, hrest⟩ := h.skipBlanks_cons hgs
    obtain ⟨hleading, _, hafter⟩ := hrest.word
    have hat' : d.shown = '@' := hshown.symm.trans hat
    have hname' : startsName rest' = true := hrest.startsName_eq.symm.trans hname
    rw [afterCase?_of_skipBlanks hgs, afterCase?_of_skipBlanks hhs, if_pos hat, if_pos hat',
      if_pos hname, if_pos hname', ← hleading]
    apply or (ih hafter.afterOptionalGroup)
    split
    · exact .some (hafter.mono id fun _ => rfl)
    · exact .none
  | case3 gs g rest hgs hat hname =>
    obtain ⟨d, rest', _, hhs, hshown, -, hrest⟩ := h.skipBlanks_cons hgs
    have hat' : d.shown = '@' := hshown.symm.trans hat
    have hname' : ¬ startsName rest' = true := by rwa [← hrest.startsName_eq]
    rw [afterCase?_of_skipBlanks hgs, afterCase?_of_skipBlanks hhs, if_pos hat, if_pos hat',
      if_neg hname, if_neg hname']
    exact .none
  | case4 gs g rest hgs hat =>
    obtain ⟨d, rest', _, hhs, hshown, hall, -⟩ := h.skipBlanks_cons hgs
    have hat' : d.shown ≠ '@' := by rwa [← hshown]
    rw [afterCase?_of_skipBlanks hgs, afterCase?_of_skipBlanks hhs, if_neg hat, if_neg hat']
    exact hall.afterCaseWord?

def SpansAgree (span span' : List (Glyph Char) × List (Glyph Char)) : Prop :=
  text span.1 = text span'.1 ∧ Agrees false true span.2 span'.2

theorem isTick_eq {g d : Glyph Char} (hshown : g.shown = d.shown) : g.isTick = d.isTick :=
  congrArg (· == tick) hshown

theorem isBlank_of_isTick {g : Glyph Char} (h : g.isTick = true) :
    EnumExport.isBlank g.shown = false := by
  have hg : g.shown = tick := by simpa [isTick] using h
  rw [hg]
  decide

theorem spanOpened? {opening opening' : List (Glyph Char)} (hopening : text opening = text opening')
    (h : Agrees false veiled gs hs) :
    Option.Rel SpansAgree (spanOpened? Glyph.isWord opening gs)
      (spanOpened? Glyph.isWord opening' hs) := by
  obtain ⟨hleading, _, hafter⟩ := h.word
  have htake : text (opening ++ gs.takeWhile Glyph.isWord) =
      text (opening' ++ hs.takeWhile Glyph.isWord) := by
    have hrun : text (gs.takeWhile Glyph.isWord) = text (hs.takeWhile Glyph.isWord) := hleading
    simp only [text, List.map_append] at hopening hrun ⊢
    rw [hopening, hrun]
  rw [Glyph.spanOpened?, Glyph.spanOpened?, ← h.startsName_eq]
  split
  · have hgs : gs.dropWhile Glyph.isWord = afterWord gs := rfl
    have hhs : hs.dropWhile Glyph.isWord = afterWord hs := rfl
    rw [hgs, hhs]
    rcases hafter.tight_cases with ⟨hnil, hnil'⟩ | ⟨g, d, gs', hs', hcons, hcons', hshown, hrest⟩
    · rw [hnil, hnil']
      exact .some ⟨htake, .nil⟩
    · rw [hcons, hcons'] at hafter ⊢
      simp only [← isTick_eq hshown]
      split
      · rename_i htick
        rw [isBlank_of_isTick htick] at hrest
        refine .some ⟨?_, hrest.mono id fun _ => rfl⟩
        simp only [text, List.map_append, List.map_cons, List.map_nil] at htake ⊢
        rw [htake, hshown]
      · exact .some ⟨htake, hafter.mono id fun _ => rfl⟩
  · exact .none

theorem spanName? (h : Agrees false veiled gs hs) :
    Option.Rel SpansAgree (spanName? Glyph.isWord gs) (spanName? Glyph.isWord hs) := by
  rcases h.tight_cases with ⟨rfl, rfl⟩ | ⟨g, d, gs', hs', rfl, rfl, hshown, hrest⟩
  · exact .none
  · rw [spanName?_cons, spanName?_cons, ← isTick_eq hshown]
    split
    · rename_i htick
      rw [isBlank_of_isTick htick] at hrest
      exact hrest.spanOpened? (by simp [text, hshown])
    · exact h.spanOpened? rfl

abbrev RawAgree : Option (List (Glyph Char)) → Option (List (Glyph Char)) → Prop :=
  Option.Rel (Agrees false false)

theorem elementEnd? (h : Agrees loose veiled gs hs) :
    Option.Rel RawAgree (elementEnd? gs) (elementEnd? hs) := by
  rw [EnumExport.elementEnd?, EnumExport.elementEnd?]
  cases hgs : Glyph.skipBlanks gs with
  | nil =>
    rw [h.skipBlanks_nil hgs]
    exact .some .none
  | cons g rest =>
    obtain ⟨d, rest', _, hhs, hshown, -, hrest⟩ := h.skipBlanks_cons hgs
    rw [hhs]
    simp only [← hshown]
    split
    · rename_i hequals
      rw [veilAfter, if_pos hequals] at hrest
      exact .some (.some hrest)
    · exact .none

theorem associatedEnd? (h : Agrees loose veiled gs hs) :
    Option.Rel RawAgree (associatedEnd? gs) (associatedEnd? hs) := by
  induction h with
  | nil => exact .none
  | both hshown _ hrest ih =>
    simp only [EnumExport.associatedEnd?, ← hshown]
    generalize EnumExport.associatedEnd? _ = found at ih ⊢
    generalize EnumExport.associatedEnd? _ = found' at ih ⊢
    -- The last bracket with an end behind it counts, so this one does if none follows.
    cases ih with
    | none =>
      simp only [Option.none_or]
      split
      · exact hrest.elementEnd?
      · exact .none
    | some hraw => exact .some hraw
  | @wider g gs hs hblank _ _ ih =>
    have hparen : g.shown ≠ ')' := ne_of_holds hblank (by decide)
    rw [EnumExport.associatedEnd?, if_neg hparen, Option.or_none]
    exact ih

def ElementsAgree (element element' : Element Char) : Prop :=
  text element.name = text element'.name ∧ RawAgree element.rawValue element'.rawValue

theorem rel_element {found found' : Option (Option (List (Glyph Char)))}
    {name name' : List (Glyph Char)} (hname : text name = text name')
    (h : Option.Rel RawAgree found found') :
    Option.Rel ElementsAgree (found.bind fun raw => some ⟨name, raw⟩)
      (found'.bind fun raw => some ⟨name', raw⟩) := by
  cases h with
  | none => exact .none
  | some hraw => exact .some ⟨hname, hraw⟩

theorem element? (h : Agrees loose veiled gs hs) :
    Option.Rel ElementsAgree (element? gs) (element? hs) := by
  obtain ⟨_, hskip⟩ := h.skipBlanks
  have hspan := hskip.spanName?
  rw [EnumExport.element?, EnumExport.element?]
  generalize Glyph.spanName? Glyph.isWord (Glyph.skipBlanks gs) = span at hspan ⊢
  generalize Glyph.spanName? Glyph.isWord (Glyph.skipBlanks hs) = span' at hspan ⊢
  cases hspan with
  | none => exact .none
  | @some span span' hagree =>
    obtain ⟨name, rest⟩ := span
    obtain ⟨name', rest'⟩ := span'
    obtain ⟨hname, hrest⟩ := hagree
    simp only [Option.bind_eq_bind, Option.bind_some]
    cases hgs : Glyph.skipBlanks rest with
    | nil =>
      rw [hrest.skipBlanks_nil hgs]
      exact .some ⟨hname, .none⟩
    | cons g tail =>
      obtain ⟨d, tail', _, hhs, hshown, hall, htail⟩ := hrest.skipBlanks_cons hgs
      rw [hhs]
      simp only [← hshown]
      split
      · exact rel_element hname htail.associatedEnd?
      · exact rel_element hname hall.elementEnd?

theorem map_source_eq_or (h : Agrees loose false gs hs) :
    gs.map Glyph.source = hs.map Glyph.source ∨
      ∃ c, isForeign c = true ∧ c ∈ gs.map Glyph.source ∧ c ∈ hs.map Glyph.source := by
  generalize hveiled : false = veiled at h
  induction h with
  | nil => exact Or.inl rfl
  | @both _ veiled g d gs hs _ hsource _ ih =>
    have hsame := hsource hveiled.symm
    -- The stretches differ only behind a veil, and what draws it is a character of both.
    by_cases hveil : veilAfter veiled g d = true
    · obtain ⟨-, hforeign⟩ : g.shown ≠ '=' ∧ isForeign g.source = true := by
        simpa [veilAfter, ← hveiled, hsame] using hveil
      exact Or.inr ⟨g.source, hforeign, by simp, by simp [hsame]⟩
    · rcases ih (Bool.eq_false_iff.mpr hveil).symm with hrest | ⟨c, hc, hmem, hmem'⟩
      · exact Or.inl (by simp [hsame, hrest])
      · exact Or.inr ⟨c, hc, List.mem_cons_of_mem _ hmem, List.mem_cons_of_mem _ hmem'⟩
  | wider => simp at hveiled

end Agrees

theorem mem_dropWhile {α : Type} {p : α → Bool} {x : α} {xs : List α} (h : x ∈ xs)
    (hx : p x = false) : x ∈ xs.dropWhile p := by
  rw [← List.takeWhile_append_dropWhile (p := p) (l := xs), List.mem_append] at h
  apply h.resolve_left
  intro hmem
  rw [List.mem_takeWhile_imp hmem] at hx
  exact absurd hx (by decide)

theorem mem_trim {c : Char} {text : List Char} (h : c ∈ text) (hc : isBlank c = false) :
    c ∈ trim text := by
  have hstart : c ∈ (trimStart text).reverse := List.mem_reverse.mpr (mem_dropWhile h hc)
  exact List.mem_reverse.mpr (mem_dropWhile hstart hc)

namespace Expression

theorem readUnsigned_of_isForeign {text : List Char} {c : Char} (h : c ∈ text)
    (hc : isForeign c = true) : readUnsigned text = .ok (unsupported text) := by
  rw [readUnsigned, if_neg]
  intro hliteral
  obtain ⟨literal, rfl⟩ := IntegerLiteral.isLiteral_iff.mp hliteral
  have hword := literal.isWord_text c h
  simp [isForeign, hword] at hc

theorem read_of_isForeign {text : List Char} {c : Char} (h : c ∈ text)
    (hc : isForeign c = true) :
    ∃ expression, read text = .ok expression ∧ expression.eval? = none := by
  have hplain : isBlank c = false ∧ c ≠ '-' := by
    simp only [isForeign, Bool.and_eq_true, Bool.not_eq_true', bne_iff_ne] at hc
    exact ⟨hc.1.2, hc.2⟩
  have hmem := mem_trim h hplain.1
  rw [read_eq]
  split
  · rename_i operand ht
    rw [ht] at hmem
    have hoperand := (List.mem_cons.mp hmem).resolve_left hplain.2
    split
    · rw [readUnsigned_of_isForeign hoperand hc]
      exact ⟨_, rfl, rfl⟩
    · exact ⟨_, rfl, rfl⟩
  · rw [readUnsigned_of_isForeign hmem hc]
    exact ⟨_, rfl, rfl⟩

end Expression

namespace Agrees

variable {gs hs : List (Glyph Char)}

theorem read_eq (h : Agrees false false gs hs) :
    (Expression.read (gs.map Glyph.source)).map Expression.eval? =
      (Expression.read (hs.map Glyph.source)).map Expression.eval? := by
  rcases h.map_source_eq_or with hsame | ⟨c, hc, hmem, hmem'⟩
  · rw [hsame]
  · obtain ⟨expression, hread, hnone⟩ := Expression.read_of_isForeign hmem hc
    obtain ⟨expression', hread', hnone'⟩ := Expression.read_of_isForeign hmem' hc
    rw [hread, hread', Except.map, Except.map, hnone, hnone']

theorem unquotedText_eq {name name' : List (Glyph Char)} (h : text name = text name') :
    unquotedText name = unquotedText name' := by
  have hfilter (name : List (Glyph Char)) :
      unquotedText name = (text name).filter (· != tick) := by
    rw [unquotedText, text, text, List.filter_map]
    rfl
  rw [hfilter, hfilter, h]

theorem readElement_eq {element element' : Element Char} (h : ElementsAgree element element') :
    (readElement element).map EnumCase.outline = (readElement element').map EnumCase.outline := by
  obtain ⟨name, raw⟩ := element
  obtain ⟨name', raw'⟩ := element'
  obtain ⟨hname, hraw⟩ := h
  have hname := unquotedText_eq hname
  cases hraw with
  | none =>
    simp [readElement, EnumCase.outline, Except.map, pure, Except.pure, bind, Except.bind, hname]
  | @some raw raw' hraw =>
    have hread := hraw.read_eq
    cases hr : Expression.read (raw.map Glyph.source) <;>
      cases hr' : Expression.read (raw'.map Glyph.source) <;>
        simp_all [readElement, EnumCase.outline, Except.map, pure, Except.pure, bind, Except.bind,
          Functor.map]

theorem mapM_readElement_eq {elements elements' : List (Element Char)}
    (h : List.Forall₂ ElementsAgree elements elements') :
    (elements.mapM readElement).map (List.map EnumCase.outline) =
      (elements'.mapM readElement).map (List.map EnumCase.outline) :=
  map_mapM_eq (h.imp fun _ _ => readElement_eq)

theorem forall₂_clauseElements {loose veiled : Bool} (h : Agrees loose veiled gs hs) :
    List.Forall₂ ElementsAgree
      (((statements gs).filterMap EnumExport.afterCase?).flatMap fun statement =>
        (elements statement).filterMap EnumExport.element?)
      (((statements hs).filterMap EnumExport.afterCase?).flatMap fun statement =>
        (elements statement).filterMap EnumExport.element?) := by
  have hclauses := List.rel_filterMap (fun _ _ hpart => afterCase? hpart)
    (h.forall₂_parts Division.isCoarse_statementDivision)
  apply List.rel_flatMap hclauses
  intro clause clause' hclause
  exact List.rel_filterMap (fun _ _ hpart => element? hpart)
    (hclause.forall₂_parts Division.isCoarse_caseDivision)

end Agrees

end EnumExport
