import EnumExport.Proofs.Reading.Clauses
import EnumExport.Proofs.Reading.Declarations
import EnumExport.Proofs.Text.Words

namespace EnumExport

open Glyph

variable {α β : Type}

def IsSpelled (more : Char → Bool) (name : List Char) : Prop :=
  ∃ first rest, name = first :: rest ∧ isNameStart first = true ∧ ∀ c ∈ rest, more c = true

def isDotted (c : Char) : Bool := isWord c || c == '.'

theorem isDotted_of_isWord {c : Char} (h : isWord c = true) : isDotted c = true := by
  rw [isDotted, h, Bool.true_or]

theorem plain_of_isDotted {c : Char} (h : isDotted c = true) : isBlank c = false ∧ c ≠ '"' := by
  rcases Bool.or_eq_true_iff.mp h with hword | hdot
  · exact ⟨isBlank_of_isWord hword, ne_of_holds hword (by decide)⟩
  · obtain rfl := beq_iff_eq.mp hdot
    decide

structure IsNamePart (more : Char → Bool) : Prop where
  of_isNameStart : ∀ c, isNameStart c = true → more c = true
  tick : more EnumExport.tick = false

theorem isNamePart_isWord : IsNamePart isWord := ⟨fun _ => isWord_of_isNameStart, by decide⟩

theorem isNamePart_isDotted : IsNamePart isDotted := by
  constructor
  · intro c hc
    exact isDotted_of_isWord (isWord_of_isNameStart hc)
  · decide

theorem IsSpelled.forall_mem {more : Char → Bool} {name : List Char} (hmore : IsNamePart more)
    (h : IsSpelled more name) : ∀ c ∈ name, more c = true := by
  obtain ⟨first, rest, rfl, hfirst, hrest⟩ := h
  exact List.forall_mem_cons.mpr ⟨hmore.of_isNameStart first hfirst, hrest⟩

theorem IsSpelled.ne_nil {more : Char → Bool} {name : List Char} (h : IsSpelled more name) :
    name ≠ [] := by
  obtain ⟨first, rest, rfl, -, -⟩ := h
  exact List.cons_ne_nil first rest

theorem IsSpelled.dotted {name : List Char} (h : IsSpelled isWord name) :
    IsSpelled isDotted name := by
  obtain ⟨first, rest, rfl, hfirst, hrest⟩ := h
  exact ⟨first, rest, rfl, hfirst, fun c hc => isDotted_of_isWord (hrest c hc)⟩

theorem IsSpelled.plain {name : List Char} (h : IsSpelled isDotted name) :
    ∀ c ∈ name, isBlank c = false ∧ c ≠ '"' := by
  intro c hc
  exact plain_of_isDotted (h.forall_mem isNamePart_isDotted c hc)

theorem IsSpelled.plain_glyphs {gs : List (Glyph α)} (h : IsSpelled isDotted (text gs)) :
    ∀ g ∈ gs, isBlank g.shown = false ∧ g.shown ≠ '"' := by
  intro g hg
  exact h.plain g.shown (List.mem_map_of_mem hg)

def unquoted (name : List (Glyph α)) : List (Glyph α) := name.filter (!·.isTick)

theorem unquoted_map (f : α → β) (name : List (Glyph α)) :
    unquoted (name.map (Glyph.map f)) = (unquoted name).map (Glyph.map f) := List.filter_map

theorem unquotedText_map (f : α → β) (name : List (Glyph α)) :
    unquotedText (name.map (Glyph.map f)) = unquotedText name := by
  have hname :
      unquotedText (name.map (Glyph.map f)) = text (unquoted (name.map (Glyph.map f))) := rfl
  rw [hname, unquoted_map, text_map]
  rfl

theorem unquoted_eq {opening run closing : List (Glyph α)}
    (haround : ∀ g ∈ opening ++ closing, g.isTick = true) (hrun : ∀ g ∈ run, g.isTick = false) :
    unquoted (opening ++ (run ++ closing)) = run := by
  obtain ⟨hopening, hclosing⟩ := List.forall_mem_append.mp haround
  have hdropped {ticks : List (Glyph α)} (h : ∀ g ∈ ticks, g.isTick = true) :
      unquoted ticks = [] := by
    apply List.filter_eq_nil_iff.mpr
    intro g hg
    simp [h g hg]
  have hkept : unquoted run = run := by
    apply List.filter_eq_self.mpr
    intro g hg
    simp [hrun g hg]
  rw [unquoted, List.filter_append, List.filter_append, ← unquoted, ← unquoted, ← unquoted,
    hdropped hopening, hdropped hclosing, hkept, List.append_nil, List.nil_append]

theorem isSpelled_takeWhile {more : Char → Bool} (hmore : IsNamePart more) {gs : List (Glyph α)}
    (hstart : startsName gs = true) :
    IsSpelled more (text (gs.takeWhile fun g => more g.shown)) := by
  cases gs with
  | nil => simp [startsName] at hstart
  | cons g gs =>
    have hg : more g.shown = true := hmore.of_isNameStart g.shown hstart
    refine ⟨g.shown, text (gs.takeWhile fun g => more g.shown), by simp [hg, text], hstart, ?_⟩
    intro c hc
    obtain ⟨d, hd, rfl⟩ := List.mem_map.mp hc
    exact List.mem_takeWhile_imp (p := fun g : Glyph α => more g.shown) hd

def IsClosing (closing rest : List (Glyph α)) : Prop :=
  (∃ g, g.isTick = true ∧ closing = [g]) ∨ closing = [] ∧ ∀ g ∈ rest.head?, g.isTick = false

theorem IsClosing.isTick {closing rest : List (Glyph α)} (h : IsClosing closing rest) :
    ∀ g ∈ closing, g.isTick = true := by
  obtain ⟨g, hg, rfl⟩ | ⟨rfl, -⟩ := h
  · exact List.forall_mem_singleton.mpr hg
  · exact List.forall_mem_nil _

theorem exists_run_of_spanOpened? {more : Char → Bool} (hmore : IsNamePart more)
    {opening gs name rest : List (Glyph α)}
    (h : spanOpened? (fun g => more g.shown) opening gs = some (name, rest)) :
    ∃ run closing, name = opening ++ (run ++ closing) ∧ IsSpelled more (text run) ∧
      (∀ g ∈ (closing ++ rest).head?, more g.shown = false) ∧ IsClosing closing rest := by
  have hstop := List.head?_dropWhile_not (fun g : Glyph α => more g.shown) gs
  unfold spanOpened? at h
  split at h
  · rename_i hstart
    have hrun := isSpelled_takeWhile hmore hstart
    split at h
    · obtain ⟨rfl, rfl⟩ := Prod.mk.inj (Option.some.inj h)
      exact ⟨_, [], by rw [List.append_nil], hrun, by simp, .inr ⟨rfl, by simp⟩⟩
    · rename_i g after hdrop
      rw [hdrop] at hstop
      have hhead : ∀ d ∈ (g :: after).head?, more d.shown = false :=
        forall_mem_head?_cons after hstop
      split at h
      · rename_i htick
        obtain ⟨rfl, rfl⟩ := Prod.mk.inj (Option.some.inj h)
        exact ⟨_, [g], by rw [List.append_assoc], hrun, hhead, .inl ⟨g, htick, rfl⟩⟩
      · rename_i htick
        obtain ⟨rfl, rfl⟩ := Prod.mk.inj (Option.some.inj h)
        refine ⟨_, [], by rw [List.append_nil], hrun, hhead, .inr ⟨rfl, ?_⟩⟩
        exact forall_mem_head?_cons after (Bool.eq_false_iff.mpr htick)
  · simp at h

theorem unquoted_of_spanName? {more : Char → Bool} (hmore : IsNamePart more)
    {gs name rest : List (Glyph α)}
    (h : spanName? (fun g => more g.shown) gs = some (name, rest)) :
    unquoted name <:+: name ∧ IsSpelled more (unquotedText name) := by
  have hopened {opening gs : List (Glyph α)} (hopening : ∀ g ∈ opening, g.isTick = true)
      (h : spanOpened? (fun g => more g.shown) opening gs = some (name, rest)) :
      unquoted name <:+: name ∧ IsSpelled more (unquotedText name) := by
    obtain ⟨run, closing, rfl, hspelled, -, hclosing⟩ := exists_run_of_spanOpened? hmore h
    have hplain : ∀ g ∈ run, g.isTick = false := by
      intro g hg
      have hshown := hspelled.forall_mem hmore g.shown (List.mem_map_of_mem hg)
      exact beq_false_of_ne (ne_of_holds hshown hmore.tick)
    have hbare := unquoted_eq (List.forall_mem_append.mpr ⟨hopening, hclosing.isTick⟩) hplain
    constructor
    · rw [hbare]
      exact ⟨opening, closing, by rw [List.append_assoc]⟩
    · have hname : unquotedText (opening ++ (run ++ closing)) =
          text (unquoted (opening ++ (run ++ closing))) := rfl
      rwa [hname, hbare]
  cases gs with
  | nil => simp [spanName?, startsName] at h
  | cons g gs =>
    rw [spanName?_cons] at h
    split at h
    · rename_i htick
      apply hopened _ h
      intro d hd
      rwa [List.mem_singleton.mp hd]
    · exact hopened (List.forall_mem_nil _) h

theorem unquoted_of_mem_caseElements {inside : List (Glyph α)} {element : Element α}
    (h : element ∈ caseElements inside) :
    unquoted element.name <:+: flatten inside ∧ IsSpelled isWord (unquotedText element.name) := by
  obtain ⟨part, hpart, helement⟩ := exists_element?_of_mem_caseElements h
  obtain ⟨rest, hspan, -⟩ := element?_eq_some_iff.mp helement
  obtain ⟨hwithin, hspelled⟩ := unquoted_of_spanName? isNamePart_isWord hspan
  exact ⟨hwithin.trans ((element?_isInfix helement).1.trans hpart), hspelled⟩

theorem DeclarationKind.mem_recognised_of_ofKeyword? {word : List Char} {kind : DeclarationKind}
    (h : DeclarationKind.ofKeyword? word = some kind) : kind ∈ DeclarationKind.recognised :=
  List.mem_of_find?_eq_some h

theorem DeclarationKind.keyword_of_ofKeyword? {word : List Char} {kind : DeclarationKind}
    (h : DeclarationKind.ofKeyword? word = some kind) : kind.keyword = word := by
  rw [DeclarationKind.ofKeyword?] at h
  exact beq_iff_eq.mp (List.find?_some (p := fun kind : DeclarationKind => kind.keyword == word) h)

theorem exists_named_of_headerItems? {gs : List (Glyph α)} {header : Header α}
    (h : headerItems? gs = some header) :
    header.kind ∈ DeclarationKind.recognised ∧ ∃ named, named <:+ gs ∧
      spanName? isQualified named = some (header.name, header.rest) := by
  induction gs using headerItems?.induct with
  | case1 gs hb =>
    rw [headerItems?] at h
    split at h <;> simp_all
  | case2 gs hb =>
    rw [headerItems?] at h
    split at h <;> simp_all
  | case3 gs g rest hb hat hname ih =>
    rw [headerItems?_of_afterBlanks? hb, if_pos hat, if_pos hname] at h
    obtain ⟨hkind, named, hnamed, hspan⟩ := ih h
    have hafter := (afterOptionalGroup_suffix (rest.dropWhile isQualified)).trans
      (List.dropWhile_suffix _)
    exact ⟨hkind, named, hnamed.trans (hafter.trans
      (tail_suffix_of_suffix (afterBlanks?_suffix hb))), hspan⟩
  | case4 gs g rest hb hat hname =>
    rw [headerItems?_of_afterBlanks? hb, if_pos hat, if_neg hname] at h
    simp at h
  | case5 gs g rest hb hat hword ih =>
    rw [headerItems?_of_afterBlanks? hb, if_neg hat, if_pos hword] at h
    obtain ⟨hkind, named, hnamed, hspan⟩ := ih h
    have hafter := (afterOptionalSetter_suffix (afterWord (g :: rest))).trans
      (afterWord_suffix (g :: rest))
    exact ⟨hkind, named, hnamed.trans (hafter.trans (afterBlanks?_suffix hb)), hspan⟩
  | case6 gs g rest hb hat hword =>
    rw [headerItems?_of_afterBlanks? hb, if_neg hat, if_neg hword] at h
    obtain ⟨named, hkind, hnamed, hname⟩ := keywordAndName?_eq_some_iff.mp h
    refine ⟨DeclarationKind.mem_recognised_of_ofKeyword? hkind, named, ?_, hname⟩
    exact (afterBlanks?_suffix hnamed).trans
      ((afterWord_suffix (g :: rest)).trans (afterBlanks?_suffix hb))

structure Header.IsFoundIn (header : Header α) (gs : List (Glyph α)) : Prop where
  kind : header.kind ∈ DeclarationKind.recognised
  nameAndRest : header.name ++ header.rest <:+ gs
  unquoted_isInfix : unquoted header.name <:+: header.name
  isSpelled : IsSpelled isDotted (unquotedText header.name)

theorem header?_isFoundIn {gs : List (Glyph α)} {header : Header α}
    (h : header? gs = some header) : header.IsFoundIn gs := by
  obtain ⟨hkind, named, hnamed, hspan⟩ := exists_named_of_headerItems? h
  obtain ⟨hwithin, hspelled⟩ := unquoted_of_spanName? isNamePart_isDotted hspan
  have hsplit := spanName?_append_eq hspan
  constructor
  · exact hkind
  · rw [hsplit]
    exact hnamed.trans (afterOptionalGroup_suffix gs)
  · exact hwithin
  · exact hspelled

theorem isSpelled_of_readSource {marker : List Char} {file : Option (List Char)}
    {source : List Char} {declarations : List Declaration}
    (h : readSource marker file source = .ok declarations) :
    ∀ d ∈ declarations, IsSpelled isDotted d.name := by
  intro d hd
  obtain ⟨⟨line, header⟩, hheader, hread⟩ := exists_mem_of_mem_mapM h hd
  obtain ⟨⟨line', gs⟩, -, hfound⟩ := List.mem_filterMap.mp hheader
  obtain ⟨header', hheader', he⟩ := Option.map_eq_some_iff.mp hfound
  obtain ⟨rfl, rfl⟩ := Prod.mk.inj he
  obtain ⟨inside, cases, -, -, rfl⟩ := readDeclaration_eq_ok_iff.mp hread
  exact (header?_isFoundIn hheader').isSpelled

end EnumExport
