import EnumExport.Proofs.Attributes.Headers

namespace EnumExport

open Glyph

section Inside

variable {lists : List ArgumentList} {gs part rest : List (Glyph Char)}

def StartsInside (lists : List ArgumentList) (gs : List (Glyph Char)) : Prop :=
  ∃ arguments ∈ lists, ∃ front back, front <:+: arguments.text ∧
    gs <+: solid front ++ ⟨')', ')'⟩ :: back

def NamesInside (lists : List ArgumentList) (gs : List (Glyph Char)) : Prop :=
  ∀ part, part <+: gs → ∀ element, element? part = some element →
    ∃ arguments ∈ lists, text element.name <:+: arguments.text

theorem NamesInside.mono {more : List ArgumentList} (h : NamesInside lists gs)
    (hmore : lists ⊆ more) : NamesInside more gs := by
  intro part hpart element helement
  obtain ⟨arguments, hmem, hname⟩ := h part hpart element helement
  exact ⟨arguments, hmore hmem, hname⟩

namespace StartsInside

theorem of_prefix (h : StartsInside lists gs) (hpart : part <+: gs) : StartsInside lists part := by
  obtain ⟨arguments, hmem, front, back, hfront, hgs⟩ := h
  exact ⟨arguments, hmem, front, back, hfront, hpart.trans hgs⟩

theorem of_suffix {arguments : ArgumentList} (hmem : arguments ∈ lists) {stretch : List Char}
    (hne : stretch ≠ []) (hstretch : stretch <:+ arguments.text) (rest : List (Glyph Char)) :
    StartsInside lists (solid stretch ++ rest) := by
  rcases List.suffix_concat_iff.mp hstretch with hnil | ⟨front, rfl, hfront⟩
  · exact absurd hnil hne
  · refine ⟨arguments, hmem, front, rest, ?_, by simp⟩
    exact hfront.isInfix.trans (List.prefix_append _ _).isInfix

theorem of_append {consumed : List (Glyph Char)} (h : StartsInside lists (consumed ++ rest))
    (hconsumed : ∀ g ∈ consumed, g.shown ≠ ')') :
    StartsInside lists rest ∧ ∃ arguments ∈ lists, text consumed <:+: arguments.text := by
  obtain ⟨arguments, hmem, front, back, hfront, hgs⟩ := h
  have hprefix : consumed <+: solid front :=
    prefix_of_shown_ne ((List.prefix_append consumed rest).trans hgs) rfl hconsumed
  obtain ⟨tail, htail⟩ := hprefix
  obtain ⟨inner, outer, rfl, rfl, rfl⟩ := List.map_eq_append_iff.mp htail.symm
  have hinner : inner <:+: arguments.text := (List.prefix_append inner outer).isInfix.trans hfront
  have houter : outer <:+: arguments.text := (List.suffix_append inner outer).isInfix.trans hfront
  rw [solid_append, List.append_assoc] at hgs
  have hrest := (List.prefix_append_right_inj (solid inner)).mp hgs
  refine ⟨⟨arguments, hmem, outer, back, houter, hrest⟩, arguments, hmem, ?_⟩
  have htext : text (solid inner) = inner := text_solid inner
  rwa [← htext] at hinner

theorem namesInside (h : StartsInside lists gs) : NamesInside lists gs := by
  intro part hpart element helement
  obtain ⟨rest, hspan, -⟩ := element?_eq_some_iff.mp helement
  have hsplit : part = part.takeWhile Glyph.isBlank ++ element.name ++ rest := by
    rw [List.append_assoc, spanName?_append_eq hspan, skipBlanks,
      List.takeWhile_append_dropWhile]
  have hconsumed : ∀ g ∈ part.takeWhile Glyph.isBlank ++ element.name, g.shown ≠ ')' := by
    rw [List.forall_mem_append]
    exact ⟨fun g hg => ne_close_of_isBlank (List.mem_takeWhile_imp hg),
      shown_ne_close_of_spanName? isNamePart_isWord (by decide) hspan⟩
  have hstarts := h.of_prefix hpart
  rw [hsplit] at hstarts
  obtain ⟨-, arguments, hmem, hwithin⟩ := hstarts.of_append hconsumed
  have hname : text element.name <:+ text (part.takeWhile Glyph.isBlank ++ element.name) :=
    (List.suffix_append _ _).map Glyph.shown
  exact ⟨arguments, hmem, hname.isInfix.trans hwithin⟩

end StartsInside

theorem exists_of_afterCaseWord? (h : afterCaseWord? gs = some rest) :
    ∃ consumed, gs = consumed ++ rest ∧ ∀ g ∈ consumed, g.shown ≠ ')' := by
  have hword (gs : List (Glyph Char)) : ∀ g ∈ gs.takeWhile Glyph.isWord, g.shown ≠ ')' := by
    intro g hg
    have hpass : Glyph.isWord g = true := List.mem_takeWhile_imp hg
    exact ne_of_holds hpass (by decide)
  have hsplit (gs : List (Glyph Char)) : gs.takeWhile Glyph.isWord ++ afterWord gs = gs :=
    List.takeWhile_append_dropWhile
  simp only [afterCaseWord?] at h
  split at h
  · obtain rfl := Option.some.inj h
    exact ⟨gs.takeWhile Glyph.isWord, (hsplit gs).symm, hword gs⟩
  · split at h
    · obtain ⟨tail, htail, h⟩ := Option.bind_eq_some_iff.mp h
      split at h
      · obtain rfl := Option.some.inj h
        have hblanks : (afterWord gs).takeWhile Glyph.isBlank ++ tail = afterWord gs := by
          rw [← skipBlanks_of_afterBlanks? htail]
          exact List.takeWhile_append_dropWhile
        refine ⟨gs.takeWhile Glyph.isWord ++ ((afterWord gs).takeWhile Glyph.isBlank ++
          tail.takeWhile Glyph.isWord), ?_, ?_⟩
        · rw [List.append_assoc, List.append_assoc, hsplit tail, hblanks, hsplit gs]
        · simp only [List.forall_mem_append]
          exact ⟨hword gs, fun g hg => ne_close_of_isBlank (List.mem_takeWhile_imp hg), hword tail⟩
      · simp at h
    · simp at h

theorem StartsInside.afterCase? (h : StartsInside lists gs) (hcase : afterCase? gs = some rest) :
    StartsInside lists rest := by
  cases hskip : skipBlanks gs with
  | nil => simp [afterCase?_eq_none hskip] at hcase
  | cons g tail =>
    obtain ⟨blanks, rfl, hblanks⟩ := exists_of_skipBlanks hskip
    have hpass : ∀ b ∈ blanks, b.shown ≠ ')' := fun b hb => ne_close_of_isBlank (hblanks b hb)
    obtain ⟨hword, -⟩ := h.of_append hpass
    rw [afterCase?_of_skipBlanks hskip] at hcase
    -- No attribute starts in a list.
    have hat : g.shown ≠ '@' := by
      intro hshown
      have hone : ∀ b ∈ [g], b.shown ≠ ')' := by simp [hshown]
      rw [← List.singleton_append] at hword
      obtain ⟨-, arguments, -, hwithin⟩ := hword.of_append hone
      have hmem : '@' ∈ arguments.text := hwithin.subset (by simp [text, hshown])
      exact ne_of_isStop (arguments.holdsNoStop_text _ hmem) (d := '@') (by decide) rfl
    rw [if_neg hat] at hcase
    obtain ⟨consumed, hconsumed, hshown⟩ := exists_of_afterCaseWord? hcase
    rw [hconsumed] at hword
    exact (hword.of_append hshown).1

theorem namesInside_of_head (h : ∀ g ∈ (skipBlanks gs).head?, g.shown = '(' ∨ g.shown = '@') :
    NamesInside lists gs := by
  rintro part ⟨tail, rfl⟩ element helement
  obtain ⟨rest, hspan, -⟩ := element?_eq_some_iff.mp helement
  cases hskip : skipBlanks part with
  | nil => simp [hskip, spanName?, startsName] at hspan
  | cons g more =>
    have hhead : g.shown = '(' ∨ g.shown = '@' := by
      apply h g
      rw [skipBlanks_append tail (by simp [hskip]), hskip]
      rfl
    have htick : g.isTick = false := by
      rcases hhead with hg | hg <;> rw [isTick, hg] <;> decide
    have hstart : startsName (g :: more) = false := by
      rcases hhead with hg | hg <;> rw [startsName, hg] <;> decide
    rw [hskip, spanName?_cons, htick, if_neg Bool.false_ne_true, spanOpened?, hstart] at hspan
    simp at hspan

end Inside

section CaseText

variable {attributes : List Attribute} {caseName : Identifier}

theorem caseText_cons (attached : Attribute) (attributes : List Attribute)
    (caseName : Identifier) :
    caseText (attached :: attributes) caseName =
      attached.text ++ ' ' :: caseText attributes caseName := by
  simp [caseText]

theorem mem_caseText_nil {c : Char} (h : c ∈ caseText [] caseName) : isWord c = true ∨ c = ' ' := by
  have hword : ∀ d ∈ caseWord, isWord d = true := by decide
  simp only [caseText, List.flatMap_nil, List.nil_append, List.mem_append, List.mem_cons,
    List.not_mem_nil, or_false] at h
  rcases h with h | h | h | h
  · exact .inl (hword c h)
  · exact .inr h
  · exact .inl (caseName.isWord_text c h)
  · exact .inr h

theorem argumentLists_cons_subset (attached : Attribute) (attributes : List Attribute) :
    argumentLists attributes ⊆ argumentLists (attached :: attributes) :=
  ((List.sublist_cons_self attached attributes).filterMap _).subset

theorem mem_argumentLists {attached : Attribute} {arguments : ArgumentList}
    (h : arguments ∈ attached.arguments) (attributes : List Attribute) :
    arguments ∈ argumentLists (attached :: attributes) :=
  List.mem_filterMap.mpr ⟨attached, List.mem_cons_self .., h⟩

theorem StartsInside.mono {lists more : List ArgumentList} {gs : List (Glyph Char)}
    (h : StartsInside lists gs) (hmore : lists ⊆ more) : StartsInside more gs := by
  obtain ⟨arguments, hmem, hinside⟩ := h
  exact ⟨arguments, hmore hmem, hinside⟩

theorem Attribute.exists_of_mark {attached : Attribute} {front back : List Char} {mark : Char}
    (hsplit : attached.text = front ++ mark :: back) (hword : isWord mark = false)
    (hat : mark ≠ '@') :
    ∃ arguments ∈ attached.arguments, ∃ inner,
      front = '@' :: attached.name.text ++ inner ∧ arguments.text = inner ++ mark :: back := by
  have htext : attached.text = '@' :: attached.name.text ++ attached.argumentText := rfl
  rw [htext] at hsplit
  rcases append_eq_append_cons hsplit with ⟨middle, hname, -⟩ | ⟨inner, hfront, hinner⟩
  · have hmem : mark ∈ '@' :: attached.name.text := by simp [hname]
    rcases List.mem_cons.mp hmem with h | h
    · exact absurd h hat
    · simp [attached.name.isWord_text mark h] at hword
  · cases harguments : attached.arguments with
    | none => simp [argumentText, harguments] at hinner
    | some arguments =>
      rw [argumentText, harguments, Option.map_some, Option.getD_some] at hinner
      exact ⟨arguments, rfl, inner, hfront, hinner⟩

theorem ArgumentList.ne_nil_of_mark {arguments : ArgumentList} {inner back : List Char}
    {mark : Char} (hsplit : arguments.text = inner ++ mark :: back) (hclose : mark ≠ ')') :
    back ≠ [] := by
  rintro rfl
  have hlast := congrArg List.getLast? hsplit
  rw [text, List.getLast?_concat, List.getLast?_concat] at hlast
  exact hclose (Option.some.inj hlast).symm

theorem startsInside_of_mark {front back : List Char} {mark : Char}
    (hsplit : caseText attributes caseName = front ++ mark :: back) (hmark : mark ∈ [';', ',']) :
    StartsInside (argumentLists attributes) (solid back) := by
  have hplain : ∀ c ∈ [';', ','], isWord c = false ∧ c ≠ ' ' ∧ c ≠ '@' ∧ c ≠ ')' := by decide
  obtain ⟨hword, hspace, hat, hclose⟩ := hplain mark hmark
  induction attributes generalizing front with
  | nil =>
    have hmem : mark ∈ caseText [] caseName := by simp [hsplit]
    rcases mem_caseText_nil hmem with h | h
    · simp [hword] at h
    · exact absurd h hspace
  | cons attached attributes ih =>
    rw [caseText_cons] at hsplit
    rcases append_eq_append_cons hsplit with ⟨middle, hinside, rfl⟩ | ⟨middle, rfl, hrest⟩
    · obtain ⟨arguments, harguments, inner, -, htext⟩ :=
        Attribute.exists_of_mark hinside hword hat
      rw [solid_append]
      apply StartsInside.of_suffix (mem_argumentLists harguments attributes)
      · exact ArgumentList.ne_nil_of_mark htext hclose
      · exact ⟨inner ++ [mark], by simp [htext]⟩
    · cases middle with
      | nil => exact absurd (List.cons.inj hrest).1.symm hspace
      | cons c middle =>
        exact (ih (List.cons.inj hrest).2).mono (argumentLists_cons_subset attached attributes)

theorem afterCase?_blank {g : Glyph Char} (hg : g.isBlank = true) (gs : List (Glyph Char)) :
    afterCase? (g :: gs) = afterCase? gs := by
  have hskip : skipBlanks (g :: gs) = skipBlanks gs := List.dropWhile_cons_of_pos hg
  cases hgs : skipBlanks gs with
  | nil => rw [afterCase?_eq_none hgs, afterCase?_eq_none (hskip.trans hgs)]
  | cons d rest => rw [afterCase?_of_skipBlanks hgs, afterCase?_of_skipBlanks (hskip.trans hgs)]

theorem afterCase?_paren (gs : List (Glyph Char)) : afterCase? (⟨'(', '('⟩ :: gs) = none := by
  have hskip : skipBlanks (⟨'(', '('⟩ :: gs) = ⟨'(', '('⟩ :: gs := rfl
  have hword : leadingWord (⟨'(', '('⟩ :: gs) = [] := rfl
  rw [afterCase?_of_skipBlanks hskip, if_neg (by decide : '(' ≠ '@'), afterCaseWord?, hword]
  rfl

theorem afterCase?_attribute (name : Identifier) {after : List (Glyph Char)}
    (hafter : ∀ g ∈ after.head?, Glyph.isWord g = false) :
    afterCase? (solid ('@' :: name.text) ++ after) =
      (afterCase? (afterOptionalGroup after)).or
        (if caseWord.isSuffixOf name.text ∧ name.text ≠ caseWord then some after else none) := by
  have hskip : skipBlanks (solid ('@' :: name.text) ++ after) =
      ⟨'@', '@'⟩ :: (solid name.text ++ after) := rfl
  have hword := isWord_solid_identifier name
  have hleading : leadingWord (solid name.text ++ after) = name.text := by
    rw [leadingWord, takeWhile_append_of_stop hword hafter, text_solid]
  have hrest : afterWord (solid name.text ++ after) = after :=
    dropWhile_append_of_stop hword hafter
  rw [afterCase?_of_skipBlanks hskip, if_pos rfl, if_pos (startsName_identifier name after),
    hleading, hrest]

theorem exists_of_solid_eq {text : List Char} {gs back : List (Glyph Char)} {g : Glyph Char}
    (h : solid text = gs ++ g :: back) :
    ∃ front rest, text = front ++ g.shown :: rest ∧ gs = solid front ∧ back = solid rest := by
  obtain ⟨front, tail, rfl, rfl, htail⟩ := List.map_eq_append_iff.mp h
  obtain ⟨c, rest, rfl, rfl, rfl⟩ := List.map_eq_cons_iff.mp htail
  exact ⟨front, rest, rfl, rfl, rfl⟩

theorem afterGroup?_eq_none_of_not_mem {front : List Char} (hfront : ')' ∉ front) :
    afterGroup? (solid ('(' :: front)) = none := by
  have hdrop : (solid front).dropWhile (·.shown != ')') = [] := by
    rw [List.dropWhile_eq_nil_iff]
    intro g hg
    obtain ⟨c, hc, rfl⟩ := List.mem_map.mp hg
    simp only [bne_iff_ne]
    rintro rfl
    exact hfront hc
  have hskip : skipBlanks (solid ('(' :: front)) = ⟨'(', '('⟩ :: solid front := rfl
  rw [afterGroup?, hskip]
  simp [hdrop]

theorem namesInside_of_cut {attached : Attribute} {gs back : List (Glyph Char)}
    {mark : Glyph Char} {clause : List (Glyph Char)}
    (hsplit : solid attached.text = gs ++ mark :: back) (hmark : mark.shown = ';')
    (h : afterCase? gs = some clause) (attributes : List Attribute) :
    NamesInside (argumentLists (attached :: attributes)) clause := by
  obtain ⟨front, rest, htext, rfl, rfl⟩ := exists_of_solid_eq hsplit
  rw [hmark] at htext
  obtain ⟨arguments, harguments, inner, rfl, hinner⟩ :=
    Attribute.exists_of_mark htext (by decide) (by decide)
  cases inner with
  | nil => exact absurd (List.cons.inj hinner).1 (by decide)
  | cons c inner =>
    obtain rfl : '(' = c := (List.cons.inj hinner).1
    have hhead : ∀ g ∈ (solid ('(' :: inner)).head?, Glyph.isWord g = false :=
      forall_mem_head?_cons _ (by decide)
    rw [solid_append, afterCase?_attribute attached.name hhead] at h
    rcases Option.or_eq_some_iff.mp h with h | ⟨-, h⟩
    · by_cases hclose : ')' ∈ inner
      · obtain ⟨first, second, rfl, hfirst⟩ := List.eq_append_cons_of_mem hclose
        have hgroup : afterOptionalGroup (solid ('(' :: (first ++ ')' :: second))) =
            solid second := by
          have hlist := afterGroup?_solid hfirst (solid second)
          simp only [solid_append, solid_cons, solid_nil, List.append_assoc, List.cons_append,
            List.nil_append] at hlist
          rw [afterOptionalGroup, solid_cons, solid_append, solid_cons, hlist, Option.getD_some]
        have hstarts : StartsInside (argumentLists (attached :: attributes))
            (solid (second ++ ';' :: rest) ++ []) := by
          apply StartsInside.of_suffix (mem_argumentLists harguments attributes) (by simp)
          exact ⟨'(' :: (first ++ [')']), by simp [hinner]⟩
        rw [hgroup] at h
        have hsecond : solid second <+: solid (second ++ ';' :: rest) ++ [] := by simp
        exact ((hstarts.of_prefix hsecond).afterCase? h).namesInside
      · rw [afterOptionalGroup, afterGroup?_eq_none_of_not_mem hclose, Option.getD_none,
          solid_cons, afterCase?_paren] at h
        simp at h
    · split at h
      · obtain rfl := Option.some.inj h
        exact namesInside_of_head (forall_mem_head?_cons _ (.inl rfl))
      · simp at h

theorem caseText_eq_cons (attributes : List Attribute) (caseName : Identifier) :
    ∃ c rest, caseText attributes caseName = c :: rest ∧ (c = 'c' ∨ c = '@') ∧
      (attributes ≠ [] → c = '@') := by
  cases attributes with
  | nil => exact ⟨'c', _, rfl, .inl rfl, fun h => absurd rfl h⟩
  | cons attached attributes => exact ⟨'@', _, rfl, .inr rfl, fun _ => rfl⟩

theorem cut_or_whole {attached : Attribute} {gs back : List (Glyph Char)}
    (hsplit : solid (caseText (attached :: attributes) caseName) = gs ++ back)
    (hback : ∀ g ∈ back.head?, g.shown = ';') :
    (∃ mark middle, mark.shown = ';' ∧ solid attached.text = gs ++ mark :: middle) ∨
      ∃ more, gs = solid attached.text ++ ⟨' ', ' '⟩ :: more ∧
        solid (caseText attributes caseName) = more ++ back := by
  rw [caseText_cons, solid_append, solid_cons] at hsplit
  cases back with
  | nil => exact .inr ⟨_, by simpa using hsplit.symm, by simp⟩
  | cons mark back =>
    have hmark : mark.shown = ';' := hback mark rfl
    rcases append_eq_append_cons hsplit with ⟨middle, hinside, -⟩ | ⟨middle, rfl, hrest⟩
    · exact .inl ⟨mark, middle, hmark, hinside⟩
    · cases middle with
      | nil =>
        obtain ⟨rfl, -⟩ := List.cons.inj hrest
        exact absurd hmark (by decide)
      | cons g more =>
        obtain ⟨rfl, hmore⟩ := List.cons.inj hrest
        exact .inr ⟨more, rfl, hmore⟩

theorem eq_nil_of_cut {gs back : List (Glyph Char)}
    (hsplit : solid (caseText [] caseName) = gs ++ back)
    (hback : ∀ g ∈ back.head?, g.shown = ';') : back = [] := by
  cases back with
  | nil => rfl
  | cons mark back =>
    obtain ⟨front, rest, htext, -⟩ := exists_of_solid_eq hsplit
    rw [hback mark rfl] at htext
    have hmem : ';' ∈ caseText [] caseName := by simp [htext]
    exact absurd (mem_caseText_nil hmem) (by decide)

theorem clause_of_attribute {attached : Attribute} {rest clause : List (Glyph Char)}
    (hrest : StartsParted rest) (h : afterCase? (solid attached.text ++ rest) = some clause)
    (attributes : List Attribute) :
    (attached.IsFlat ∧ afterCase? rest = some clause) ∨
      StartsInside (argumentLists (attached :: attributes)) clause ∨
      clause = solid attached.argumentText ++ rest := by
  have htext : solid attached.text ++ rest =
      solid ('@' :: attached.name.text) ++ (solid attached.argumentText ++ rest) := by
    simp [Attribute.text]
  rw [htext, afterCase?_attribute attached.name (attached.isWord_head_argumentText hrest)] at h
  rcases Option.or_eq_some_iff.mp h with h | ⟨-, h⟩
  · by_cases hflat : attached.IsFlat
    · rw [Attribute.afterOptionalGroup_of_isFlat hflat hrest] at h
      exact .inl ⟨hflat, h⟩
    · obtain ⟨arguments, harguments, front, inner, hinner, -, hafter⟩ :=
        Attribute.exists_of_not_isFlat hflat
      have hsuffix : inner ++ [')'] <:+ arguments.text :=
        ⟨'(' :: front ++ [')'], by simp [ArgumentList.text, hinner]⟩
      have hstarts := StartsInside.of_suffix (mem_argumentLists harguments attributes)
        (by simp) hsuffix rest
      rw [hafter] at h
      exact .inr (.inl (hstarts.afterCase? h))
  · split at h
    · exact .inr (.inr (Option.some.inj h).symm)
    · simp at h

theorem startsParted_caseText (attributes : List Attribute) (caseName : Identifier) :
    StartsParted (⟨' ', ' '⟩ :: solid (caseText attributes caseName)) := by
  obtain ⟨c, rest, hcons, hc, -⟩ := caseText_eq_cons attributes caseName
  rw [hcons]
  refine ⟨⟨c, c⟩, solid rest, rfl, ?_⟩
  rcases hc with rfl | rfl <;> decide

theorem afterCase?_caseText (hflat : ∀ attached ∈ attributes, attached.IsFlat) :
    afterCase? (solid (caseText attributes caseName)) =
      some (solid (' ' :: (caseName.text ++ [' ']))) := by
  induction attributes with
  | nil =>
    have hhead : ∀ g ∈ (solid (' ' :: (caseName.text ++ [' ']))).head?,
        Glyph.isWord g = false := forall_mem_head?_cons _ (by decide)
    have hword := afterCase?_caseWord (List.forall_mem_nil _) hhead
    simpa [caseText] using hword
  | cons attached attributes ih =>
    obtain ⟨hattached, hmore⟩ := List.forall_mem_cons.mp hflat
    have hparted := startsParted_caseText attributes caseName
    have htext : solid (caseText (attached :: attributes) caseName) =
        solid ('@' :: attached.name.text) ++
          (solid attached.argumentText ++ ⟨' ', ' '⟩ :: solid (caseText attributes caseName)) := by
      simp [caseText_cons, Attribute.text]
    rw [htext, afterCase?_attribute attached.name (attached.isWord_head_argumentText hparted),
      Attribute.afterOptionalGroup_of_isFlat hattached hparted, afterCase?_blank (by decide),
      ih hmore, Option.some_or]

theorem namesInside_or_isFlat {gs back clause : List (Glyph Char)}
    (hsplit : solid (caseText attributes caseName) = gs ++ back)
    (hback : ∀ g ∈ back.head?, g.shown = ';') (h : afterCase? gs = some clause) :
    NamesInside (argumentLists attributes) clause ∨
      (∀ attached ∈ attributes, attached.IsFlat) ∧ back = [] := by
  induction attributes generalizing gs with
  | nil => exact .inr ⟨by simp, eq_nil_of_cut hsplit hback⟩
  | cons attached attributes ih =>
    rcases cut_or_whole hsplit hback with ⟨mark, middle, hmark, hcut⟩ | ⟨more, rfl, hmore⟩
    · exact .inl (namesInside_of_cut hcut hmark h attributes)
    · obtain ⟨c, rest, hcons, hc, hfirst⟩ := caseText_eq_cons attributes caseName
      have hplain : isBlank c = false ∧ c ≠ '(' ∧ c ≠ ';' := by
        rcases hc with rfl | rfl <;> decide
      obtain ⟨tail, rfl⟩ : ∃ tail, more = ⟨c, c⟩ :: tail := by
        rw [hcons, solid_cons] at hmore
        cases more with
        | nil =>
          obtain rfl : solid (c :: rest) = back := hmore
          exact absurd (hback ⟨c, c⟩ rfl) hplain.2.2
        | cons g tail => exact ⟨tail, by rw [(List.cons.inj hmore).1]⟩
      have hparted : StartsParted (⟨' ', ' '⟩ :: ⟨c, c⟩ :: tail) :=
        ⟨⟨c, c⟩, tail, rfl, hplain.1, hplain.2.1⟩
      rcases clause_of_attribute hparted h attributes with ⟨hflat, h⟩ | hinside | rfl
      · rw [afterCase?_blank (by decide)] at h
        rcases ih hmore h with hinside | ⟨hall, hwhole⟩
        · exact .inl (hinside.mono (argumentLists_cons_subset attached attributes))
        · exact .inr ⟨List.forall_mem_cons.mpr ⟨hflat, hall⟩, hwhole⟩
      · exact .inl hinside.namesInside
      -- No element begins with a list or with an attribute.
      · cases harguments : attached.arguments with
        | none =>
          by_cases hnil : attributes = []
          · subst hnil
            exact .inr ⟨by simp [Attribute.IsFlat, harguments], eq_nil_of_cut hmore hback⟩
          · refine .inl (namesInside_of_head fun g hg => ?_)
            rw [Attribute.argumentText, harguments, hfirst hnil] at hg
            exact .inr (by rw [← Option.some.inj hg])
        | some arguments =>
          refine .inl (namesInside_of_head fun g hg => ?_)
          rw [Attribute.argumentText, harguments] at hg
          exact .inl (by rw [← Option.some.inj hg])

end CaseText

end EnumExport
