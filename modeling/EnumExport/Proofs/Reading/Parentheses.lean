import EnumExport.Proofs.Lists
import EnumExport.Source.Header
import Mathlib.Data.List.TakeWhile

namespace EnumExport

open Glyph

variable {α : Type}

section Text

variable {gs : List (Glyph α)} {front back : List Char} {c : Char}

theorem text_append (gs more : List (Glyph α)) : text (gs ++ more) = text gs ++ text more :=
  List.map_append

theorem text_cons (g : Glyph α) (gs : List (Glyph α)) : text (g :: gs) = g.shown :: text gs := rfl

theorem text_eq_append_iff :
    text gs = front ++ back ↔ ∃ fs bs, gs = fs ++ bs ∧ text fs = front ∧ text bs = back :=
  List.map_eq_append_iff

theorem text_eq_cons_iff :
    text gs = c :: back ↔ ∃ g bs, gs = g :: bs ∧ g.shown = c ∧ text bs = back :=
  List.map_eq_cons_iff

end Text

def AreBlank (chars : List Char) : Prop := ∀ c ∈ chars, isBlank c = true

def IsOptional (form : List Char → Prop) (chars : List Char) : Prop := chars = [] ∨ form chars

def IsParenthesised (inside : List Char → Prop) (chars : List Char) : Prop :=
  ∃ blanks inner, AreBlank blanks ∧ inside inner ∧ chars = blanks ++ '(' :: (inner ++ [')'])

def HoldsNoClose (inner : List Char) : Prop := ')' ∉ inner

def IsSetWord (inner : List Char) : Prop :=
  ∃ before after, AreBlank before ∧ AreBlank after ∧ inner = before ++ ("set".toList ++ after)

theorem areBlank_text_iff {gs : List (Glyph α)} :
    AreBlank (text gs) ↔ ∀ g ∈ gs, g.isBlank = true := List.forall_mem_map

theorem areBlank_takeWhile (gs : List (Glyph α)) :
    AreBlank (text (gs.takeWhile Glyph.isBlank)) :=
  areBlank_text_iff.mpr fun _ hg => List.mem_takeWhile_imp hg

theorem exists_of_skipBlanks {gs rest : List (Glyph α)} {g : Glyph α}
    (h : skipBlanks gs = g :: rest) :
    ∃ blanks, gs = blanks ++ g :: rest ∧ ∀ b ∈ blanks, b.isBlank = true :=
  ⟨gs.takeWhile Glyph.isBlank, by rw [← h, skipBlanks, List.takeWhile_append_dropWhile],
    fun _ hb => List.mem_takeWhile_imp hb⟩

theorem skipBlanks_append_of_stop {blanks rest : List (Glyph α)} {g : Glyph α}
    (hblanks : ∀ b ∈ blanks, b.isBlank = true) (hg : EnumExport.isBlank g.shown = false) :
    skipBlanks (blanks ++ g :: rest) = g :: rest :=
  dropWhile_append_of_stop hblanks (forall_mem_head?_cons rest hg)

theorem isParenthesised_text_iff {inside : List Char → Prop} {front : List (Glyph α)} :
    IsParenthesised inside (text front) ↔
      ∃ blanks opener inner closer, front = blanks ++ opener :: (inner ++ [closer]) ∧
        (∀ g ∈ blanks, g.isBlank = true) ∧ opener.shown = '(' ∧ inside (text inner) ∧
        closer.shown = ')' := by
  constructor
  · rintro ⟨blanks, inner, hblanks, hinner, htext⟩
    obtain ⟨bs, tail, rfl, rfl, htail⟩ := text_eq_append_iff.mp htext
    obtain ⟨opener, more, rfl, hopener, hmore⟩ := text_eq_cons_iff.mp htail
    obtain ⟨is, ending, rfl, rfl, hending⟩ := text_eq_append_iff.mp hmore
    obtain ⟨closer, nothing, rfl, hcloser, hnothing⟩ := text_eq_cons_iff.mp hending
    obtain rfl := List.map_eq_nil_iff.mp hnothing
    exact ⟨bs, opener, is, closer, rfl, areBlank_text_iff.mp hblanks, hopener, hinner, hcloser⟩
  · rintro ⟨blanks, opener, inner, closer, rfl, hblanks, hopener, hinner, hcloser⟩
    refine ⟨text blanks, text inner, areBlank_text_iff.mpr hblanks, hinner, ?_⟩
    simp [text, hopener, hcloser]

theorem exists_skipBlanks_of_isParenthesised {inside : List Char → Prop} {front : List (Glyph α)}
    (h : IsParenthesised inside (text front)) (rest : List (Glyph α)) :
    ∃ opener inner closer, skipBlanks (front ++ rest) = opener :: (inner ++ closer :: rest) ∧
      opener.shown = '(' ∧ inside (text inner) ∧ closer.shown = ')' := by
  obtain ⟨blanks, opener, inner, closer, rfl, hblanks, hopener, hinner, hcloser⟩ :=
    isParenthesised_text_iff.mp h
  refine ⟨opener, inner, closer, ?_, hopener, hinner, hcloser⟩
  have hsplit : blanks ++ opener :: (inner ++ [closer]) ++ rest =
      blanks ++ opener :: (inner ++ closer :: rest) := by simp
  rw [hsplit, skipBlanks_append_of_stop hblanks (by rw [hopener]; decide)]

theorem IsSetWord.holdsNoClose {inner : List Char} (h : IsSetWord inner) : HoldsNoClose inner := by
  obtain ⟨before, after, hbefore, hafter, rfl⟩ := h
  have hblank {chars : List Char} (hchars : AreBlank chars) : ')' ∉ chars := by
    intro hmem
    exact absurd (hchars ')' hmem) (by decide)
  simp only [HoldsNoClose, List.mem_append, not_or]
  exact ⟨hblank hbefore, by decide, hblank hafter⟩

/-- A step that takes a text in parentheses off the front where there is one, and nothing else. -/
def TakesOff (after? : List (Glyph α) → Option (List (Glyph α)))
    (inside : List Char → Prop) : Prop :=
  ∀ gs rest, after? gs = some rest ↔
    ∃ front, gs = front ++ rest ∧ IsParenthesised inside (text front)

namespace TakesOff

variable {after? : List (Glyph α) → Option (List (Glyph α))} {inside : List Char → Prop}
  {gs rest : List (Glyph α)}

theorem append (hafter : TakesOff after? inside) (more : List (Glyph α))
    (h : after? gs = some rest) : after? (gs ++ more) = some (rest ++ more) := by
  obtain ⟨front, rfl, hfront⟩ := (hafter gs rest).mp h
  exact (hafter _ _).mpr ⟨front, List.append_assoc .., hfront⟩

theorem eq_none (hafter : TakesOff after? inside) {g : Glyph α} (h : skipBlanks gs = g :: rest)
    (hg : g.shown ≠ '(') : after? gs = none := by
  rw [Option.eq_none_iff_forall_ne_some]
  intro after hsome
  obtain ⟨front, rfl, hfront⟩ := (hafter gs after).mp hsome
  obtain ⟨opener, inner, closer, hskip, hopener, -, -⟩ :=
    exists_skipBlanks_of_isParenthesised hfront after
  rw [hskip] at h
  exact hg ((List.cons.inj h).1 ▸ hopener)

theorem exists_front (hafter : TakesOff after? inside) (gs : List (Glyph α)) :
    ∃ front, gs = front ++ (after? gs).getD gs ∧
      IsOptional (IsParenthesised inside) (text front) := by
  cases h : after? gs with
  | none => exact ⟨[], rfl, .inl rfl⟩
  | some rest =>
    obtain ⟨front, hgs, hfront⟩ := (hafter gs rest).mp h
    exact ⟨front, hgs, .inr hfront⟩

end TakesOff

theorem afterGroup?_eq_some_iff {gs rest : List (Glyph α)} :
    afterGroup? gs = some rest ↔ ∃ opener tail closer, skipBlanks gs = opener :: tail ∧
      opener.shown = '(' ∧ tail.dropWhile (·.shown != ')') = closer :: rest := by
  constructor
  · intro h
    unfold afterGroup? at h
    split at h
    · simp at h
    · rename_i opener tail hskip
      split at h
      · rename_i hopener
        split at h
        · simp at h
        · rename_i closer after hdrop
          obtain rfl := Option.some.inj h
          exact ⟨opener, tail, closer, hskip, hopener, hdrop⟩
      · simp at h
  · rintro ⟨opener, tail, closer, hskip, hopener, hdrop⟩
    rw [afterGroup?, hskip]
    simp only [hopener, if_true, hdrop]

theorem takesOff_afterGroup? : TakesOff (afterGroup? (α := α)) HoldsNoClose := by
  intro gs rest
  rw [afterGroup?_eq_some_iff]
  constructor
  · rintro ⟨opener, tail, closer, hskip, hopener, hdrop⟩
    obtain ⟨blanks, rfl, hblanks⟩ := exists_of_skipBlanks hskip
    have htail := List.takeWhile_append_dropWhile (p := (·.shown != ')')) (l := tail)
    have hcloser := List.head?_dropWhile_not (·.shown != ')') tail
    rw [hdrop] at htail hcloser
    refine ⟨blanks ++ opener :: (tail.takeWhile (·.shown != ')') ++ [closer]), ?_, ?_⟩
    · conv => lhs; rw [← htail]
      simp
    · apply isParenthesised_text_iff.mpr
      refine ⟨blanks, opener, _, closer, rfl, hblanks, hopener, ?_, by simpa using hcloser⟩
      intro hmem
      obtain ⟨g, hg, hshown⟩ := List.mem_map.mp hmem
      have hpass := List.mem_takeWhile_imp hg
      simp [hshown] at hpass
  · rintro ⟨front, rfl, hfront⟩
    obtain ⟨opener, inner, closer, hskip, hopener, hinner, hcloser⟩ :=
      exists_skipBlanks_of_isParenthesised hfront rest
    have hpass : ∀ g ∈ inner, (g.shown != ')') = true := by
      intro g hg
      rw [bne_iff_ne]
      exact fun hshown => hinner (List.mem_map.mpr ⟨g, hg, hshown⟩)
    have hdrop : (inner ++ closer :: rest).dropWhile (·.shown != ')') = closer :: rest :=
      dropWhile_append_of_stop hpass (forall_mem_head?_cons rest (by simp [hcloser]))
    exact ⟨opener, inner ++ closer :: rest, closer, hskip, hopener, hdrop⟩

theorem afterSetter?_eq_some_iff {gs rest : List (Glyph α)} :
    afterSetter? gs = some rest ↔ ∃ opener tail closer, skipBlanks gs = opener :: tail ∧
      opener.shown = '(' ∧ text ((skipBlanks tail).take 3) = "set".toList ∧
      skipBlanks ((skipBlanks tail).drop 3) = closer :: rest ∧ closer.shown = ')' := by
  constructor
  · intro h
    unfold afterSetter? at h
    split at h
    · simp at h
    · rename_i opener tail hskip
      split at h
      · rename_i hopener
        simp only at h
        split at h
        · rename_i hset
          split at h
          · simp at h
          · rename_i closer after hclose
            split at h
            · rename_i hcloser
              obtain rfl := Option.some.inj h
              exact ⟨opener, tail, closer, hskip, hopener, hset, hclose, hcloser⟩
            · simp at h
        · simp at h
      · simp at h
  · rintro ⟨opener, tail, closer, hskip, hopener, hset, hclose, hcloser⟩
    rw [afterSetter?, hskip]
    simp only [hopener, if_true, hset, hclose, hcloser]

theorem passed_of_isSetWord {inner : List (Glyph α)} {closer : Glyph α}
    (hinner : IsSetWord (text inner)) (hcloser : closer.shown = ')') (rest : List (Glyph α)) :
    text ((skipBlanks (inner ++ closer :: rest)).take 3) = "set".toList ∧
      skipBlanks ((skipBlanks (inner ++ closer :: rest)).drop 3) = closer :: rest := by
  obtain ⟨before, after, hbefore, hafter, htext⟩ := hinner
  obtain ⟨lead, more, rfl, rfl, hmore⟩ := text_eq_append_iff.mp htext
  obtain ⟨word, trail, rfl, hword, rfl⟩ := text_eq_append_iff.mp hmore
  have hlength : word.length = 3 := by simpa [text] using congrArg List.length hword
  have hhead : ∀ g ∈ (word ++ (trail ++ closer :: rest)).head?, g.isBlank = false := by
    obtain ⟨s, tail, rfl, hs, -⟩ := text_eq_cons_iff.mp hword
    apply forall_mem_head?_cons
    rw [Glyph.isBlank, hs]
    decide
  have hskip : skipBlanks (lead ++ (word ++ trail) ++ closer :: rest) =
      word ++ (trail ++ closer :: rest) := by
    rw [List.append_assoc, List.append_assoc]
    exact dropWhile_append_of_stop (areBlank_text_iff.mp hbefore) hhead
  rw [hskip, List.take_left' hlength, List.drop_left' hlength]
  exact ⟨hword, skipBlanks_append_of_stop (areBlank_text_iff.mp hafter) (by rw [hcloser]; decide)⟩

theorem takesOff_afterSetter? : TakesOff (afterSetter? (α := α)) IsSetWord := by
  intro gs rest
  rw [afterSetter?_eq_some_iff]
  constructor
  · rintro ⟨opener, tail, closer, hskip, hopener, hset, hclose, hcloser⟩
    obtain ⟨blanks, rfl, hblanks⟩ := exists_of_skipBlanks hskip
    obtain ⟨trail, htrail, htrailBlank⟩ := exists_of_skipBlanks hclose
    have htail : tail = tail.takeWhile Glyph.isBlank ++
        ((skipBlanks tail).take 3 ++ (trail ++ closer :: rest)) := by
      rw [← htrail, List.take_append_drop, skipBlanks, List.takeWhile_append_dropWhile]
    refine ⟨blanks ++ opener :: (tail.takeWhile Glyph.isBlank ++
      ((skipBlanks tail).take 3 ++ trail) ++ [closer]), ?_, ?_⟩
    · conv => lhs; rw [htail]
      simp
    · apply isParenthesised_text_iff.mpr
      refine ⟨blanks, opener, _, closer, rfl, hblanks, hopener, ?_, hcloser⟩
      refine ⟨_, text trail, areBlank_takeWhile tail, areBlank_text_iff.mpr htrailBlank, ?_⟩
      rw [text_append, text_append, hset]
  · rintro ⟨front, rfl, hfront⟩
    obtain ⟨opener, inner, closer, hskip, hopener, hinner, hcloser⟩ :=
      exists_skipBlanks_of_isParenthesised hfront rest
    obtain ⟨hset, hclose⟩ := passed_of_isSetWord hinner hcloser rest
    exact ⟨opener, inner ++ closer :: rest, closer, hskip, hopener, hset, hclose, hcloser⟩

end EnumExport
