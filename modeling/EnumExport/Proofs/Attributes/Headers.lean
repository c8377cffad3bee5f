import EnumExport.Proofs.Attributes.Grammar
import EnumExport.Proofs.Printing.RoundTrip
import EnumExport.Proofs.Reading.Spelling

namespace EnumExport

open Glyph

section Overclosing

variable {α : Type} {front : List (Glyph α)}

def Overcloses (gs : List (Glyph α)) : Prop := (text gs).count '(' < (text gs).count ')'

namespace Overcloses

theorem exists_mem (h : Overcloses front) : ∃ g ∈ front, g.shown = ')' := by
  have hmem : ')' ∈ text front := List.count_pos_iff.mp (Nat.zero_lt_of_lt h)
  exact List.mem_map.mp hmem

theorem of_append {before : List (Glyph α)} (h : Overcloses (before ++ front))
    (hbefore : ∀ g ∈ before, g.shown ≠ ')') : Overcloses front := by
  have hnone : (text before).count ')' = 0 := by
    rw [List.count_eq_zero]
    intro hmem
    obtain ⟨g, hg, hshown⟩ := List.mem_map.mp hmem
    exact hbefore g hg hshown
  simp only [Overcloses, text, List.map_append, List.count_append] at h hnone ⊢
  omega

theorem dropWhile {p : Glyph α → Bool} (more : List (Glyph α)) (h : Overcloses front)
    (hp : ∀ g : Glyph α, g.shown = ')' → p g = false) :
    Overcloses (front.dropWhile p) ∧
      (front ++ more).dropWhile p = front.dropWhile p ++ more := by
  have hsplit := List.takeWhile_append_dropWhile (p := p) (l := front)
  have hkept : Overcloses (front.dropWhile p) := by
    rw [← hsplit] at h
    apply h.of_append
    intro g hg hshown
    have hpass := List.mem_takeWhile_imp hg
    rw [hp g hshown] at hpass
    exact absurd hpass (by decide)
  refine ⟨hkept, dropWhile_append_of_ne_nil more ?_⟩
  intro hnil
  obtain ⟨g, hg, -⟩ := hkept.exists_mem
  simp [hnil] at hg

theorem skipBlanks (more : List (Glyph α)) (h : Overcloses front) :
    Overcloses (skipBlanks front) ∧
      Glyph.skipBlanks (front ++ more) = Glyph.skipBlanks front ++ more := by
  apply h.dropWhile more
  intro g hg
  rw [Glyph.isBlank, hg]
  decide

theorem afterWord (more : List (Glyph α)) (h : Overcloses front) :
    Overcloses (afterWord front) ∧
      Glyph.afterWord (front ++ more) = Glyph.afterWord front ++ more := by
  apply h.dropWhile more
  intro g hg
  rw [Glyph.isWord, hg]
  decide

theorem afterBlanks? {more rest : List (Glyph α)} (h : Overcloses front)
    (hrest : afterBlanks? (front ++ more) = some rest) :
    Overcloses (Glyph.skipBlanks front) ∧ rest = Glyph.skipBlanks front ++ more := by
  obtain ⟨hskip, hmore⟩ := h.skipBlanks more
  exact ⟨hskip, (skipBlanks_of_afterBlanks? hrest).symm.trans hmore⟩

theorem of_group {more inner rest : List (Glyph α)} {close : Glyph α} (h : Overcloses front)
    (hsplit : front ++ more = inner ++ close :: rest) (hclose : close.shown = ')')
    (hopen : ∃ g ∈ inner, g.shown = '(') (hinner : ∀ g ∈ inner, g.shown ≠ ')') :
    ∃ kept, kept <:+ front ∧ rest = kept ++ more ∧ Overcloses kept := by
  have hprefix : inner ++ [close] <+: front ∨ front <+: inner := by
    have hfront : front <+: inner ++ close :: rest := hsplit ▸ List.prefix_append front more
    have hgroup : inner ++ [close] <+: inner ++ close :: rest := by simp
    rcases List.prefix_or_prefix_of_prefix hfront hgroup with hle | hle
    · rcases List.prefix_concat_iff.mp hle with rfl | hle
      · exact .inl (List.prefix_refl _)
      · exact .inr hle
    · exact .inl hle
  rcases hprefix with ⟨kept, rfl⟩ | hinside
  · refine ⟨kept, List.suffix_append _ _, ?_, ?_⟩
    · simpa [List.append_assoc] using hsplit.symm
    · obtain ⟨g, hg, hshown⟩ := hopen
      have hpos : 0 < (text inner).count '(' :=
        List.count_pos_iff.mpr (List.mem_map.mpr ⟨g, hg, hshown⟩)
      have hzero : (text inner).count ')' = 0 := by
        rw [List.count_eq_zero]
        intro hmem
        obtain ⟨d, hd, hshown⟩ := List.mem_map.mp hmem
        exact hinner d hd hshown
      simp only [Overcloses, text, List.map_append, List.map_cons, List.map_nil,
        List.count_append, hclose] at h hpos hzero ⊢
      simp at h
      omega
  · obtain ⟨g, hg, hshown⟩ := h.exists_mem
    exact absurd hshown (hinner g (hinside.subset hg))

end Overcloses

theorem ne_close_of_isBlank {g : Glyph α} (h : g.isBlank = true) : g.shown ≠ ')' :=
  ne_of_holds h (by decide)

theorem exists_of_afterSetter? {gs rest : List (Glyph α)} (h : afterSetter? gs = some rest) :
    ∃ inner close, gs = inner ++ close :: rest ∧ close.shown = ')' ∧
      (∃ g ∈ inner, g.shown = '(') ∧ ∀ g ∈ inner, g.shown ≠ ')' := by
  obtain ⟨front, rfl, hfront⟩ := (takesOff_afterSetter? gs rest).mp h
  obtain ⟨blanks, opener, inner, close, rfl, hblanks, hopener, hinner, hclose⟩ :=
    isParenthesised_text_iff.mp hfront
  refine ⟨blanks ++ opener :: inner, close, by simp, hclose, ⟨opener, by simp, hopener⟩, ?_⟩
  simp only [List.forall_mem_append, List.forall_mem_cons]
  refine ⟨fun g hg => ne_close_of_isBlank (hblanks g hg), by rw [hopener]; decide, ?_⟩
  intro g hg hshown
  exact hinner.holdsNoClose (List.mem_map.mpr ⟨g, hg, hshown⟩)

theorem Overcloses.afterOptionalSetter (more : List (Glyph α)) (h : Overcloses front) :
    ∃ kept, kept <:+ front ∧ afterOptionalSetter (front ++ more) = kept ++ more ∧
      Overcloses kept := by
  rw [EnumExport.afterOptionalSetter]
  cases hsetter : afterSetter? (front ++ more) with
  | none => exact ⟨front, List.suffix_refl front, rfl, h⟩
  | some rest =>
    obtain ⟨inner, close, hsplit, hclose, hopen, hinner⟩ := exists_of_afterSetter? hsetter
    exact h.of_group hsplit hclose hopen hinner

theorem shown_ne_close_of_spanName? {pass : Char → Bool} (hpass : IsNamePart pass)
    (hclose : pass ')' = false) {gs name rest : List (Glyph α)}
    (h : spanName? (fun g => pass g.shown) gs = some (name, rest)) :
    ∀ g ∈ name, g.shown ≠ ')' := by
  have hspelled := (unquoted_of_spanName? hpass h).2.forall_mem hpass
  intro g hg
  by_cases htick : g.isTick = true
  · exact ne_of_holds (p := fun c => c == tick) htick (by decide)
  · have hbare : g.shown ∈ unquotedText name := by
      apply List.mem_map_of_mem
      simp [hg, htick]
    exact ne_of_holds (hspelled g.shown hbare) hclose

theorem prefix_of_shown_ne {gs back : List (Glyph α)} {close : Glyph α}
    (h : gs <+: front ++ close :: back) (hclose : close.shown = ')')
    (hgs : ∀ g ∈ gs, g.shown ≠ ')') : gs <+: front :=
  prefix_of_not_mem h fun hmem => hgs close hmem hclose

theorem name_isInfix_of_overcloses {header : Header α} (hfront : Overcloses front)
    (hat : ∀ g ∈ front, g.shown ≠ '@') (h : headerItems? (front ++ more) = some header) :
    header.name <:+: front := by
  induction hgs : front ++ more using headerItems?.induct generalizing front with
  | case1 gs hb =>
    rw [hgs, headerItems?_eq_none (by simp [hb])] at h
    simp at h
  | case2 gs hb =>
    rw [hgs, headerItems?_eq_none (by simp [hb])] at h
    simp at h
  | case3 gs g rest hb hshown =>
    subst hgs
    obtain ⟨hskip, hcons⟩ := hfront.afterBlanks? hb
    obtain ⟨d, hd, -⟩ := hskip.exists_mem
    obtain ⟨c, tail, hc⟩ := List.exists_cons_of_ne_nil (List.ne_nil_of_mem hd)
    rw [hc] at hcons
    obtain ⟨rfl, -⟩ := List.cons.inj hcons
    have hmem : g ∈ front := (skipBlanks_suffix front).subset (by simp [hc])
    exact absurd hshown (hat g hmem)
  | case4 gs g rest hb hshown hname =>
    rw [hgs, headerItems?_of_afterBlanks? hb, if_pos hshown, if_neg hname] at h
    simp at h
  | case5 gs g rest hb hshown hword ih =>
    subst hgs
    rw [headerItems?_of_afterBlanks? hb, if_neg hshown, if_pos hword] at h
    obtain ⟨hskip, hcons⟩ := hfront.afterBlanks? hb
    obtain ⟨hafter, hmore⟩ := hskip.afterWord more
    obtain ⟨kept, hkept, hsetter, hover⟩ := hafter.afterOptionalSetter more
    have hsuffix : kept <:+ front :=
      hkept.trans ((afterWord_suffix _).trans (skipBlanks_suffix front))
    rw [hcons, hmore, hsetter] at h ih
    have hname := ih hover (fun g hg => hat g (hsuffix.subset hg)) h rfl
    exact hname.trans hsuffix.isInfix
  | case6 gs g rest hb hshown hword =>
    subst hgs
    rw [headerItems?_of_afterBlanks? hb, if_neg hshown, if_neg hword] at h
    obtain ⟨hskip, hcons⟩ := hfront.afterBlanks? hb
    obtain ⟨hafter, hmore⟩ := hskip.afterWord more
    obtain ⟨named, -, hnamed, hspan⟩ := keywordAndName?_eq_some_iff.mp h
    rw [hcons, hmore] at hnamed
    obtain ⟨hover, rfl⟩ := hafter.afterBlanks? hnamed
    obtain ⟨close, hclose, hshown⟩ := hover.exists_mem
    obtain ⟨before, behind, hsplit⟩ := List.append_of_mem hclose
    have hstart : header.name <+: before := by
      have hname := List.prefix_append header.name header.rest
      rw [spanName?_append_eq hspan, hsplit, List.append_assoc, List.cons_append] at hname
      exact prefix_of_shown_ne hname hshown
        (shown_ne_close_of_spanName? isNamePart_isDotted (by decide) hspan)
    have hbefore : before <+: Glyph.skipBlanks (Glyph.afterWord (Glyph.skipBlanks front)) :=
      hsplit ▸ List.prefix_append before (close :: behind)
    have hsuffix : Glyph.skipBlanks (Glyph.afterWord (Glyph.skipBlanks front)) <:+ front :=
      (skipBlanks_suffix _).trans ((afterWord_suffix _).trans (skipBlanks_suffix front))
    exact (hstart.trans hbefore).isInfix.trans hsuffix.isInfix

end Overclosing

section AttributeLists

theorem Attribute.head_argumentText (attached : Attribute) {rest : List (Glyph Char)}
    (hrest : StartsParted rest) :
    ∀ g ∈ (solid attached.argumentText ++ rest).head?, g = ⟨'(', '('⟩ ∨ g = ⟨' ', ' '⟩ := by
  intro g hg
  rw [argumentText] at hg
  cases harguments : attached.arguments with
  | none =>
    obtain ⟨d, tail, rfl, -⟩ := hrest
    exact .inr (by simpa [harguments] using hg.symm)
  | some arguments =>
    exact .inl (by simpa [harguments, ArgumentList.text] using hg.symm)

theorem Attribute.isWord_head_argumentText (attached : Attribute) {rest : List (Glyph Char)}
    (hrest : StartsParted rest) :
    ∀ g ∈ (solid attached.argumentText ++ rest).head?, Glyph.isWord g = false := by
  intro g hg
  rcases attached.head_argumentText hrest g hg with rfl | rfl <;> decide

theorem headerItems?_attribute (attached : Attribute) {rest : List (Glyph Char)}
    (hrest : StartsParted rest) :
    headerItems? (solid (' ' :: attached.text) ++ rest) =
      headerItems? (afterOptionalGroup (solid attached.argumentText ++ rest)) := by
  have hstop : ∀ g ∈ (solid attached.argumentText ++ rest).head?, isQualified g = false := by
    intro g hg
    rcases attached.head_argumentText hrest g hg with rfl | rfl <;> decide
  have hafter : (solid attached.name.text ++ (solid attached.argumentText ++ rest)).dropWhile
      isQualified = solid attached.argumentText ++ rest :=
    dropWhile_append_of_stop (allowsWords_isQualified.identifier attached.name) hstop
  have htext : solid (' ' :: attached.text) ++ rest = ⟨' ', ' '⟩ :: ⟨'@', '@'⟩ ::
      (solid attached.name.text ++ (solid attached.argumentText ++ rest)) := by
    simp [Attribute.text]
  have hblanks : afterBlanks? (solid (' ' :: attached.text) ++ rest) = some (⟨'@', '@'⟩ ::
      (solid attached.name.text ++ (solid attached.argumentText ++ rest))) := by
    rw [htext]
    rfl
  rw [headerItems?_of_afterBlanks? hblanks, if_pos rfl,
    if_pos (startsName_identifier attached.name _), hafter]

theorem startsParted_headerText (attributes : List Attribute) {rest : List Char}
    (hrest : StartsParted (solid rest)) : StartsParted (solid (headerText attributes rest)) := by
  cases attributes with
  | nil => exact hrest
  | cons attached attributes => exact ⟨⟨'@', '@'⟩, _, rfl, by decide, by decide⟩

theorem headerText_cons (attached : Attribute) (attributes : List Attribute) (rest : List Char) :
    solid (headerText (attached :: attributes) rest) =
      solid (' ' :: attached.text) ++ solid (headerText attributes rest) := by
  simp [headerText]

theorem headerItems?_headerText {attributes : List Attribute} {rest : List Char}
    (hflat : ∀ attached ∈ attributes, attached.IsFlat) (hrest : StartsParted (solid rest)) :
    headerItems? (solid (headerText attributes rest)) = headerItems? (solid rest) := by
  induction attributes with
  | nil => rfl
  | cons attached attributes ih =>
    obtain ⟨hattached, hattributes⟩ := List.forall_mem_cons.mp hflat
    have hparted := startsParted_headerText attributes hrest
    rw [headerText_cons, headerItems?_attribute attached hparted,
      Attribute.afterOptionalGroup_of_isFlat hattached hparted, ih hattributes]

theorem named_inside_of_not_isFlat {attached : Attribute} {rest : List (Glyph Char)}
    {header : Header Char} (attributes : List Attribute) (hdeep : ¬ attached.IsFlat)
    (h : headerItems? (afterOptionalGroup (solid attached.argumentText ++ rest)) = some header) :
    ∃ arguments ∈ argumentLists (attached :: attributes),
      text header.name <:+: arguments.text := by
  obtain ⟨arguments, harguments, front, back, hinner, hback, hafter⟩ :=
    Attribute.exists_of_not_isFlat hdeep
  rw [hafter] at h
  have hover : Overcloses (solid (back ++ [')'])) := by
    simp only [Overcloses, text_solid, List.count_append]
    simp
    omega
  have hat : ∀ g ∈ solid (back ++ [')']), g.shown ≠ '@' := by
    have hstop := arguments.notStop
    rw [hinner] at hstop
    apply shown_ne_of_holdsNoStop _ (by decide)
    exact holdsNoStop_append (fun c hc => hstop c (by simp [hc])) (by decide)
  have hname : text header.name <:+: text (solid (back ++ [')'])) :=
    (name_isInfix_of_overcloses hover hat h).map Glyph.shown
  have hback : back ++ [')'] <:+: arguments.text :=
    ⟨'(' :: front ++ [')'], [], by simp [ArgumentList.text, hinner]⟩
  rw [text_solid] at hname
  have hmem : arguments ∈ argumentLists (attached :: attributes) :=
    List.mem_filterMap.mpr ⟨attached, List.mem_cons_self .., harguments⟩
  exact ⟨arguments, hmem, hname.trans hback⟩

theorem isFlat_or_named_inside {attached : Attribute} {attributes : List Attribute}
    {rest : List Char} {header : Header Char} (hrest : StartsParted (solid rest))
    (h : headerItems? (afterOptionalGroup
      (solid attached.argumentText ++ solid (headerText attributes rest))) = some header) :
    (∀ other ∈ attached :: attributes, other.IsFlat) ∨
      ∃ arguments ∈ argumentLists (attached :: attributes),
        text header.name <:+: arguments.text := by
  induction attributes generalizing attached with
  | nil =>
    by_cases hattached : attached.IsFlat
    · exact .inl (by simpa using hattached)
    · exact .inr (named_inside_of_not_isFlat [] hattached h)
  | cons next attributes ih =>
    by_cases hattached : attached.IsFlat
    · have hparted := startsParted_headerText (next :: attributes) hrest
      rw [Attribute.afterOptionalGroup_of_isFlat hattached hparted, headerText_cons,
        headerItems?_attribute next (startsParted_headerText attributes hrest)] at h
      rcases ih h with hall | ⟨arguments, hmem, hname⟩
      · exact .inl (List.forall_mem_cons.mpr ⟨hattached, hall⟩)
      · have hmore : argumentLists (next :: attributes) ⊆
            argumentLists (attached :: next :: attributes) :=
          ((List.sublist_cons_self attached (next :: attributes)).filterMap _).subset
        exact .inr ⟨arguments, hmore hmem, hname⟩
    · exact .inr (named_inside_of_not_isFlat (next :: attributes) hattached h)

end AttributeLists

end EnumExport
