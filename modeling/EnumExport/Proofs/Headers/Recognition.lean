import EnumExport.Proofs.Headers.Grammar

namespace EnumExport

open Glyph

variable {α : Type}

theorem forall_mem_head?_text {p : Char → Prop} {gs : List (Glyph α)} :
    (∀ c ∈ (text gs).head?, p c) ↔ ∀ g ∈ gs.head?, p g.shown := by
  cases gs with
  | nil => simp [text]
  | cons g gs => simp [text]

section Names

variable {opening gs named name rest : List (Glyph α)}

theorem isTick_iff {g : Glyph α} : g.isTick = true ↔ g.shown = tick := beq_iff_eq

theorem exists_spanOpened? (more : Glyph α → Bool) (opening : List (Glyph α))
    (hstart : startsName gs = true) :
    ∃ name rest, spanOpened? more opening gs = some (name, rest) := by
  rw [spanOpened?, if_pos hstart]
  split
  · exact ⟨_, _, rfl⟩
  · split
    · exact ⟨_, _, rfl⟩
    · exact ⟨_, _, rfl⟩

theorem exists_spanName? (h : StartsNamed (text named)) :
    ∃ name rest, spanName? isQualified named = some (name, rest) := by
  obtain ⟨opening, first, rest, hopening, hfirst, htext⟩ := h
  obtain ⟨os, more, rfl, rfl, hmore⟩ := text_eq_append_iff.mp htext
  obtain ⟨g, tail, rfl, rfl, rfl⟩ := text_eq_cons_iff.mp hmore
  have hstart : startsName (g :: tail) = true := hfirst
  rcases hopening with hnone | htick
  · obtain rfl := List.map_eq_nil_iff.mp hnone
    have hg : g.shown ≠ tick := ne_of_holds hfirst (by decide)
    rw [List.nil_append, spanName?_cons, if_neg (isTick_iff.not.mpr hg)]
    exact exists_spanOpened? isQualified [] hstart
  · obtain ⟨t, rfl, ht⟩ := List.map_eq_singleton_iff.mp htick
    rw [List.singleton_append, spanName?_cons, if_pos (isTick_iff.mpr ht)]
    exact exists_spanOpened? isQualified [t] hstart

theorem isLongestName_of_spanOpened? (hopening : IsOptional (· = [tick]) (text opening))
    (h : spanOpened? isQualified opening gs = some (name, rest)) :
    IsLongestName (text name) (text rest) := by
  obtain ⟨run, closing, rfl, hrun, hstop, hclosing⟩ :=
    exists_run_of_spanOpened? isNamePart_isDotted h
  refine ⟨text opening, text run, text closing, ?_, hopening, hrun, ?_, ?_⟩
  · rw [text_append, text_append]
  · rw [← text_append]
    exact forall_mem_head?_text.mpr hstop
  · obtain ⟨g, htick, rfl⟩ | ⟨rfl, hrest⟩ := hclosing
    · exact .inl (congrArg ([·]) (isTick_iff.mp htick))
    · refine .inr ⟨rfl, forall_mem_head?_text.mpr fun g hg => ?_⟩
      exact isTick_iff.not.mp (by simp [hrest g hg])

theorem isLongestName_of_spanName? (h : spanName? isQualified named = some (name, rest)) :
    IsLongestName (text name) (text rest) := by
  cases named with
  | nil => simp [spanName?, startsName] at h
  | cons g gs =>
    rw [spanName?_cons] at h
    split at h
    · rename_i htick
      exact isLongestName_of_spanOpened? (.inr (by simp [text, isTick_iff.mp htick])) h
    · exact isLongestName_of_spanOpened? (.inl rfl) h

theorem StartsNamed.isBlank_head? {chars : List Char} (h : StartsNamed chars) :
    ∀ c ∈ chars.head?, isBlank c = false := by
  obtain ⟨opening, first, rest, rfl | rfl, hfirst, rfl⟩ := h
  · exact forall_mem_head?_cons _ (isBlank_of_isWord (isWord_of_isNameStart hfirst))
  · exact forall_mem_head?_cons _ (by decide)

theorem IsLongestName.startsNamed {name rest : List Char} (h : IsLongestName name rest) :
    StartsNamed (name ++ rest) := by
  obtain ⟨opening, run, closing, rfl, hopening, ⟨first, more, rfl, hfirst, -⟩, -, -⟩ := h
  exact ⟨opening, first, more ++ (closing ++ rest), hopening, hfirst, by simp⟩

end Names

section Steps

variable {gap name arguments word setter nameGap named rest : List (Glyph α)}

theorem headerItems?_attached {mark : Glyph α} (hgap : IsGap (text gap))
    (hmark : mark.shown = '@') (hname : IsSpelled isDotted (text name))
    (harguments : IsOptional (IsParenthesised HoldsNoClose) (text arguments))
    (hrest : IsParted (text rest)) :
    headerItems? (gap ++ mark :: (name ++ (arguments ++ rest))) = headerItems? rest := by
  have hmarkBlank : mark.isBlank = false := by
    rw [Glyph.isBlank, hmark]
    decide
  have hblanks : afterBlanks? (gap ++ mark :: (name ++ (arguments ++ rest))) =
      some (mark :: (name ++ (arguments ++ rest))) :=
    afterBlanks?_gap hgap (forall_mem_head?_cons _ hmarkBlank)
  have hdotted : ∀ g ∈ name, isQualified g = true :=
    List.forall_mem_map.mp (hname.forall_mem isNamePart_isDotted)
  have hstop : ∀ g ∈ (arguments ++ rest).head?, isQualified g = false := by
    apply (forall_mem_head?_text (p := fun c => isDotted c = false)).mp
    rw [text_append]
    exact isDotted_head?_of_isOptional harguments hrest
  have hstart : startsName (name ++ (arguments ++ rest)) = true := by
    obtain ⟨first, more, htext, hfirst, -⟩ := hname
    obtain ⟨g, tail, rfl, rfl, -⟩ := text_eq_cons_iff.mp htext
    exact hfirst
  rw [headerItems?_of_afterBlanks? hblanks, if_pos hmark, if_pos hstart,
    dropWhile_append_of_stop hdotted hstop, afterOptionalGroup,
    takesOff_afterGroup?.getD_of_isParted harguments hrest]

theorem leadingWord_append_of_stop (hword : ∀ c ∈ text word, isWord c = true)
    (hrest : ∀ c ∈ (text rest).head?, isWord c = false) :
    leadingWord (word ++ rest) = text word :=
  congrArg text (takeWhile_append_of_stop (List.forall_mem_map.mp hword)
    (forall_mem_head?_text.mp hrest))

theorem afterWord_append_of_stop (hword : ∀ c ∈ text word, isWord c = true)
    (hrest : ∀ c ∈ (text rest).head?, isWord c = false) : afterWord (word ++ rest) = rest :=
  dropWhile_append_of_stop (List.forall_mem_map.mp hword) (forall_mem_head?_text.mp hrest)

theorem headerItems?_word (hgap : IsGap (text gap)) (hne : text word ≠ [])
    (hword : ∀ c ∈ text word, isWord c = true)
    (hrest : ∀ c ∈ (text rest).head?, isWord c = false) :
    headerItems? (gap ++ (word ++ rest)) =
      if text word ∈ modifiers then headerItems? (afterOptionalSetter rest)
      else keywordAndName? (word ++ rest) := by
  have hleading := leadingWord_append_of_stop hword hrest
  have hafter := afterWord_append_of_stop hword hrest
  cases word with
  | nil => exact absurd rfl hne
  | cons g word =>
    have hg : isWord g.shown = true := hword g.shown (List.mem_cons_self ..)
    have hblanks : afterBlanks? (gap ++ (g :: word ++ rest)) = some (g :: (word ++ rest)) :=
      afterBlanks?_gap hgap (forall_mem_head?_cons _ (isBlank_of_isWord hg))
    rw [headerItems?_of_afterBlanks? hblanks, if_neg (ne_of_holds hg (by decide)),
      ← List.cons_append, hleading, hafter]

theorem headerItems?_modified (hgap : IsGap (text gap)) (hword : text word ∈ modifiers)
    (hsetter : IsOptional (IsParenthesised IsSetWord) (text setter))
    (hrest : IsParted (text rest)) :
    headerItems? (gap ++ (word ++ (setter ++ rest))) = headerItems? rest := by
  obtain ⟨hne, hspelled⟩ := modifier_spelled hword
  have hstop : ∀ c ∈ (text (setter ++ rest)).head?, isWord c = false := by
    intro c hc
    rw [text_append] at hc
    exact isWord_of_isDotted_eq_false (isDotted_head?_of_isOptional hsetter hrest c hc)
  rw [headerItems?_word hgap hne hspelled hstop, if_pos hword, afterOptionalSetter,
    takesOff_afterSetter?.getD_of_isParted hsetter hrest]

theorem headerItems?_keyword {header : Header α} (hgap : IsGap (text gap))
    (hkind : header.kind ∈ DeclarationKind.recognised) (hword : text word = header.kind.keyword)
    (hnameGap : IsGap (text nameGap)) (hnamed : ∀ g ∈ named.head?, g.isBlank = false)
    (hname : spanName? isQualified named = some (header.name, header.rest)) :
    headerItems? (gap ++ (word ++ (nameGap ++ named))) = some header := by
  obtain ⟨hne, hspelled⟩ := keyword_spelled hkind
  have hnot := keyword_not_mem_modifiers hkind
  rw [← hword] at hne hspelled hnot
  have hstop : ∀ c ∈ (text (nameGap ++ named)).head?, isWord c = false := by
    intro c hc
    rw [text_append] at hc
    exact isWord_of_isDotted_eq_false (isDotted_head?_gap hnameGap _ c hc)
  rw [headerItems?_word hgap hne hspelled hstop, if_neg hnot]
  apply keywordAndName?_eq_some_iff.mpr
  refine ⟨named, ?_, ?_, hname⟩
  · rw [leadingWord_append_of_stop hspelled hstop, hword,
      DeclarationKind.ofKeyword?_keyword hkind]
  · rw [afterWord_append_of_stop hspelled hstop, afterBlanks?_gap hnameGap hnamed]

end Steps

section Runs

theorem text_eq_leadingWord (gs : List (Glyph α)) :
    text gs = leadingWord gs ++ text (afterWord gs) := by
  rw [leadingWord, afterWord, ← text_append, List.takeWhile_append_dropWhile]

variable {gs : List (Glyph α)} {header : Header α}

theorem Leads.exists_rest {rest items : List Char} (h : Leads rest items) (hrest : IsParted rest)
    (hgs : text gs = items) :
    ∃ back, back <:+ gs ∧ text back = rest ∧ headerItems? gs = headerItems? back := by
  induction h generalizing gs with
  | done => exact ⟨gs, List.suffix_refl gs, hgs, rfl⟩
  | attached hgap hname harguments hchars ih =>
    obtain ⟨gap, tail, rfl, rfl, htail⟩ := text_eq_append_iff.mp hgs
    obtain ⟨mark, more, rfl, hmark, hmore⟩ := text_eq_cons_iff.mp htail
    obtain ⟨name, behind, rfl, rfl, hbehind⟩ := text_eq_append_iff.mp hmore
    obtain ⟨arguments, gs, rfl, rfl, hchars_eq⟩ := text_eq_append_iff.mp hbehind
    obtain ⟨back, hback, htext, hsearch⟩ := ih hchars_eq
    have hparted : IsParted (text gs) := by
      rw [hchars_eq]
      exact hchars.isParted hrest
    refine ⟨back, hback.trans ?_, htext, ?_⟩
    · exact ⟨gap ++ mark :: (name ++ arguments), by simp⟩
    · rw [headerItems?_attached hgap hmark hname harguments hparted, hsearch]
  | modified hgap hword _ hsetter hchars ih =>
    obtain ⟨gap, tail, rfl, rfl, htail⟩ := text_eq_append_iff.mp hgs
    obtain ⟨word, behind, rfl, rfl, hbehind⟩ := text_eq_append_iff.mp htail
    obtain ⟨setter, gs, rfl, rfl, hchars_eq⟩ := text_eq_append_iff.mp hbehind
    obtain ⟨back, hback, htext, hsearch⟩ := ih hchars_eq
    have hparted : IsParted (text gs) := by
      rw [hchars_eq]
      exact hchars.isParted hrest
    refine ⟨back, hback.trans ?_, htext, ?_⟩
    · exact ⟨gap ++ (word ++ setter), by simp⟩
    · rw [headerItems?_modified hgap hword hsetter hparted, hsearch]

theorem exists_leads_of_headerItems? (h : headerItems? gs = some header) :
    ∃ gap nameGap named, IsGap gap ∧ header.kind ∈ DeclarationKind.recognised ∧ IsGap nameGap ∧
      Leads (gap ++ (header.kind.keyword ++ (nameGap ++ text named))) (text gs) ∧
      spanName? isQualified named = some (header.name, header.rest) := by
  induction gs using headerItems?.induct with
  | case1 gs hb =>
    rw [headerItems?_eq_none (by simp [hb])] at h
    simp at h
  | case2 gs hb =>
    rw [headerItems?_eq_none (by simp [hb])] at h
    simp at h
  | case3 gs mark behind hb hmark hname ih =>
    rw [headerItems?_of_afterBlanks? hb, if_pos hmark, if_pos hname] at h
    obtain ⟨gap, nameGap, named, hgap, hkind, hnameGap, hleads, hspan⟩ := ih h
    obtain ⟨front, rfl, hfront⟩ := exists_gap_of_afterBlanks? hb
    obtain ⟨arguments, harguments, hoptional⟩ :=
      takesOff_afterGroup?.exists_front (behind.dropWhile isQualified)
    refine ⟨gap, nameGap, named, hgap, hkind, hnameGap, ?_, hspan⟩
    have hspelled : IsSpelled isDotted (text (behind.takeWhile isQualified)) :=
      isSpelled_takeWhile isNamePart_isDotted hname
    have htext : text (front ++ mark :: behind) = text front ++ '@' ::
        (text (behind.takeWhile isQualified) ++ (text arguments ++
          text (afterOptionalGroup (behind.dropWhile isQualified)))) := by
      conv => lhs; rw [← List.takeWhile_append_dropWhile (p := isQualified) (l := behind),
        harguments]
      rw [text_append, text_cons, hmark, text_append, text_append, afterOptionalGroup]
    rw [htext]
    exact .attached hfront hspelled hoptional hleads
  | case4 gs mark behind hb hmark hname =>
    rw [headerItems?_of_afterBlanks? hb, if_pos hmark, if_neg hname] at h
    simp at h
  | case5 gs g behind hb hmark hword ih =>
    rw [headerItems?_of_afterBlanks? hb, if_neg hmark, if_pos hword] at h
    obtain ⟨gap, nameGap, named, hgap, hkind, hnameGap, hleads, hspan⟩ := ih h
    obtain ⟨front, rfl, hfront⟩ := exists_gap_of_afterBlanks? hb
    obtain ⟨setter, hsetter, hoptional⟩ :=
      takesOff_afterSetter?.exists_front (afterWord (g :: behind))
    refine ⟨gap, nameGap, named, hgap, hkind, hnameGap, ?_, hspan⟩
    have hafter : text (afterWord (g :: behind)) =
        text setter ++ text (afterOptionalSetter (afterWord (g :: behind))) := by
      conv => lhs; rw [hsetter]
      rw [text_append, afterOptionalSetter]
    rw [text_append, text_eq_leadingWord (g :: behind), hafter]
    refine .modified hfront hword ?_ hoptional hleads
    rw [← hafter]
    exact fun c => isWord_of_head?_afterWord
  | case6 gs g behind hb hmark hword =>
    rw [headerItems?_of_afterBlanks? hb, if_neg hmark, if_neg hword] at h
    obtain ⟨named, hkind, hnamed, hspan⟩ := keywordAndName?_eq_some_iff.mp h
    obtain ⟨front, rfl, hfront⟩ := exists_gap_of_afterBlanks? hb
    obtain ⟨nameGap, hafter, hnameGap⟩ := exists_gap_of_afterBlanks? hnamed
    refine ⟨text front, text nameGap, named, hfront,
      DeclarationKind.mem_recognised_of_ofKeyword? hkind, hnameGap, ?_, hspan⟩
    have htext : text (front ++ g :: behind) =
        text front ++ (header.kind.keyword ++ (text nameGap ++ text named)) := by
      rw [DeclarationKind.keyword_of_ofKeyword? hkind, text_append,
        text_eq_leadingWord (g :: behind), hafter, text_append]
    rw [htext]
    exact .done

end Runs

structure HeaderForm.IsHeader {gs : List (Glyph α)} (form : HeaderForm (text gs))
    (header : Header α) : Prop where
  kind : header.kind = form.kind
  suffix : header.name ++ header.rest <:+ gs
  named : text header.name ++ text header.rest = form.named
  longest : IsLongestName (text header.name) (text header.rest)

theorem HeaderForm.exists_header {gs : List (Glyph α)} (form : HeaderForm (text gs)) :
    ∃ header, header? gs = some header ∧ form.IsHeader header := by
  obtain ⟨arguments, items, rfl, harguments, hitems⟩ := text_eq_append_iff.mp form.chars_eq
  have hparted : IsParted (text items) := by
    rw [hitems]
    exact form.leads.isParted form.isParted
  obtain ⟨back, hback, htext, hsearch⟩ := form.leads.exists_rest form.isParted hitems
  obtain ⟨gap, tail, rfl, hgap, htail⟩ := text_eq_append_iff.mp htext
  obtain ⟨word, behind, rfl, hword, hbehind⟩ := text_eq_append_iff.mp htail
  obtain ⟨nameGap, named, rfl, hnameGap, hnamed⟩ := text_eq_append_iff.mp hbehind
  have hstarts : StartsNamed (text named) := by
    rw [hnamed]
    exact form.startsNamed
  obtain ⟨name, rest, hspan⟩ := exists_spanName? hstarts
  have hsplit := spanName?_append_eq hspan
  have hheader : header? (arguments ++ items) = some ⟨form.kind, name, rest⟩ := by
    rw [header?, afterOptionalGroup, takesOff_afterGroup?.getD_of_isParted _ hparted, hsearch]
    · exact headerItems?_keyword (hgap ▸ form.isGap) form.isRecognised hword
        (hnameGap ▸ form.isNameGap) (forall_mem_head?_text.mp hstarts.isBlank_head?) hspan
    · rw [harguments]
      exact form.isArguments
  refine ⟨⟨form.kind, name, rest⟩, hheader, rfl, ?_, ?_, isLongestName_of_spanName? hspan⟩
  · rw [hsplit]
    have hbehind : named <:+ gap ++ (word ++ (nameGap ++ named)) :=
      ⟨gap ++ (word ++ nameGap), by simp⟩
    exact hbehind.trans (hback.trans (List.suffix_append arguments items))
  · rw [← text_append, hsplit]
    exact hnamed

theorem exists_form_of_header? {gs : List (Glyph α)} {header : Header α}
    (h : header? gs = some header) : Nonempty (HeaderForm (text gs)) := by
  obtain ⟨arguments, harguments, hoptional⟩ := takesOff_afterGroup?.exists_front gs
  obtain ⟨gap, nameGap, named, hgap, hkind, hnameGap, hleads, hspan⟩ :=
    exists_leads_of_headerItems? h
  have hstarts := (isLongestName_of_spanName? hspan).startsNamed
  rw [← text_append, spanName?_append_eq hspan] at hstarts
  have htext : text gs = text arguments ++ text (afterOptionalGroup gs) := by
    rw [← text_append, afterOptionalGroup, ← harguments]
  exact ⟨⟨_, _, gap, header.kind, nameGap, text named, htext, hoptional, hleads, hgap, hkind,
    hnameGap, hstarts⟩⟩

/-- From any place of a text on, a header is found exactly if the text starts with one there, and it
is the same in whichever way the text is split up. -/
theorem headerForm_iff_header (gs : List (Glyph α)) :
    ((header? gs).isSome = true ↔ Nonempty (HeaderForm (text gs))) ∧
      (∀ form form' : HeaderForm (text gs), form.kind = form'.kind ∧ form.named = form'.named) ∧
      ∀ form : HeaderForm (text gs), ∃ header, header? gs = some header ∧ form.IsHeader header := by
  refine ⟨⟨?_, ?_⟩, ?_, HeaderForm.exists_header⟩
  · intro h
    obtain ⟨header, hheader⟩ := Option.isSome_iff_exists.mp h
    exact exists_form_of_header? hheader
  · rintro ⟨form⟩
    obtain ⟨header, hheader, -⟩ := form.exists_header
    rw [hheader, Option.isSome_some]
  · intro form form'
    obtain ⟨header, hheader, hform⟩ := form.exists_header
    obtain ⟨header', hheader', hform'⟩ := form'.exists_header
    obtain rfl := Option.some.inj (hheader.symm.trans hheader')
    exact ⟨hform.kind.symm.trans hform'.kind, hform.named.symm.trans hform'.named⟩

end EnumExport
