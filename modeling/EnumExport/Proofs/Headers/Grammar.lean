import EnumExport.Proofs.Reading.Spelling

/-!
The grammar of declaration headers: what may stand between the name of an attribute and the body of
the declaration, over every way to split a text up.
-/

namespace EnumExport

open Glyph

variable {α : Type}

def IsGap (chars : List Char) : Prop := chars ≠ [] ∧ AreBlank chars

inductive Leads (rest : List Char) : List Char → Prop
  | done : Leads rest rest
  | attached {gap name arguments chars : List Char} (hgap : IsGap gap)
      (hname : IsSpelled isDotted name)
      (harguments : IsOptional (IsParenthesised HoldsNoClose) arguments)
      (hchars : Leads rest chars) : Leads rest (gap ++ '@' :: (name ++ (arguments ++ chars)))
  | modified {gap word setter chars : List Char} (hgap : IsGap gap) (hword : word ∈ modifiers)
      (hwhole : ∀ c ∈ (setter ++ chars).head?, isWord c = false)
      (hsetter : IsOptional (IsParenthesised IsSetWord) setter)
      (hchars : Leads rest chars) : Leads rest (gap ++ (word ++ (setter ++ chars)))

def StartsNamed (chars : List Char) : Prop :=
  ∃ opening first rest, IsOptional (· = [tick]) opening ∧ isNameStart first = true ∧
    chars = opening ++ first :: rest

/-- One way to split up a text that starts with a header. -/
structure HeaderForm (chars : List Char) where
  arguments : List Char
  items : List Char
  gap : List Char
  kind : DeclarationKind
  nameGap : List Char
  named : List Char
  chars_eq : chars = arguments ++ items
  isArguments : IsOptional (IsParenthesised HoldsNoClose) arguments
  leads : Leads (gap ++ (kind.keyword ++ (nameGap ++ named))) items
  isGap : IsGap gap
  isRecognised : kind ∈ DeclarationKind.recognised
  isNameGap : IsGap nameGap
  startsNamed : StartsNamed named

/-- The name takes all the dotted characters there are, and the backtick right behind them. -/
def IsLongestName (name rest : List Char) : Prop :=
  ∃ opening run closing, name = opening ++ (run ++ closing) ∧ IsOptional (· = [tick]) opening ∧
    IsSpelled isDotted run ∧ (∀ c ∈ (closing ++ rest).head?, isDotted c = false) ∧
    (closing = [tick] ∨ closing = [] ∧ ∀ c ∈ rest.head?, c ≠ tick)

def IsParted (chars : List Char) : Prop :=
  ∃ gap c rest, IsGap gap ∧ isBlank c = false ∧ c ≠ '(' ∧ chars = gap ++ c :: rest

section Gaps

variable {gap rest : List (Glyph α)}

theorem isDotted_of_isBlank {c : Char} (h : isBlank c = true) : isDotted c = false := by
  rw [isDotted, isWord_of_isBlank h, Bool.false_or, beq_eq_false_iff_ne]
  exact ne_of_holds h (by decide)

theorem isWord_of_isDotted_eq_false {c : Char} (h : isDotted c = false) : isWord c = false :=
  (Bool.or_eq_false_iff.mp h).1

theorem isDotted_head?_gap {gap : List Char} (hgap : IsGap gap) (rest : List Char) :
    ∀ c ∈ (gap ++ rest).head?, isDotted c = false := by
  obtain ⟨blank, more, rfl⟩ := List.exists_cons_of_ne_nil hgap.1
  exact forall_mem_head?_cons _ (isDotted_of_isBlank (hgap.2 blank (List.mem_cons_self ..)))

theorem IsParted.isDotted_head? {chars : List Char} (h : IsParted chars) :
    ∀ c ∈ chars.head?, isDotted c = false := by
  obtain ⟨gap, c, rest, hgap, -, -, rfl⟩ := h
  exact isDotted_head?_gap hgap (c :: rest)

theorem isDotted_head?_of_isOptional {inside : List Char → Prop} {front back : List Char}
    (hfront : IsOptional (IsParenthesised inside) front) (hback : IsParted back) :
    ∀ c ∈ (front ++ back).head?, isDotted c = false := by
  rcases hfront with rfl | ⟨blanks, inner, hblanks, -, rfl⟩
  · exact hback.isDotted_head?
  · cases blanks with
    | nil => exact forall_mem_head?_cons _ (by decide)
    | cons blank blanks =>
      exact forall_mem_head?_cons _ (isDotted_of_isBlank (hblanks blank (List.mem_cons_self ..)))

theorem afterBlanks?_gap (hgap : IsGap (text gap)) (hrest : ∀ g ∈ rest.head?, g.isBlank = false) :
    afterBlanks? (gap ++ rest) = some rest := by
  obtain ⟨hne, hblank⟩ := hgap
  cases gap with
  | nil => exact absurd rfl hne
  | cons blank gap =>
    obtain ⟨hfirst, hmore⟩ := List.forall_mem_cons.mp (areBlank_text_iff.mp hblank)
    rw [List.cons_append, afterBlanks?, if_pos hfirst, skipBlanks,
      dropWhile_append_of_stop hmore hrest]

theorem exists_gap_of_afterBlanks? {gs : List (Glyph α)} (h : afterBlanks? gs = some rest) :
    ∃ gap, gs = gap ++ rest ∧ IsGap (text gap) := by
  cases gs with
  | nil => simp [afterBlanks?] at h
  | cons g gs =>
    rw [afterBlanks?] at h
    split at h
    · rename_i hg
      obtain rfl := Option.some.inj h
      have hblank : ∀ b ∈ g :: gs.takeWhile Glyph.isBlank, b.isBlank = true :=
        List.forall_mem_cons.mpr ⟨hg, fun b hb => List.mem_takeWhile_imp hb⟩
      refine ⟨g :: gs.takeWhile Glyph.isBlank, ?_, List.cons_ne_nil _ _,
        areBlank_text_iff.mpr hblank⟩
      rw [List.cons_append, skipBlanks, List.takeWhile_append_dropWhile]
    · simp at h

theorem skipBlanks_of_isParted {gs : List (Glyph α)} (h : IsParted (text gs)) :
    ∃ g rest, skipBlanks gs = g :: rest ∧ g.shown ≠ '(' := by
  obtain ⟨gap, c, rest, hgap, hblank, hparen, htext⟩ := h
  obtain ⟨blanks, more, rfl, rfl, hmore⟩ := text_eq_append_iff.mp htext
  obtain ⟨g, rest, rfl, rfl, rfl⟩ := text_eq_cons_iff.mp hmore
  exact ⟨g, rest, skipBlanks_append_of_stop (areBlank_text_iff.mp hgap.2) hblank, hparen⟩

theorem TakesOff.getD_of_isParted {after? : List (Glyph α) → Option (List (Glyph α))}
    {inside : List Char → Prop} (hafter : TakesOff after? inside) {front : List (Glyph α)}
    (hfront : IsOptional (IsParenthesised inside) (text front)) (hrest : IsParted (text rest)) :
    (after? (front ++ rest)).getD (front ++ rest) = rest := by
  rcases hfront with hnone | hsome
  · obtain rfl := List.map_eq_nil_iff.mp hnone
    obtain ⟨g, tail, hskip, hparen⟩ := skipBlanks_of_isParted hrest
    rw [List.nil_append, hafter.eq_none hskip hparen, Option.getD_none]
  · rw [(hafter (front ++ rest) rest).mpr ⟨front, rfl, hsome⟩, Option.getD_some]

end Gaps

section Words

theorem modifier_spelled {word : List Char} (h : word ∈ modifiers) :
    word ≠ [] ∧ ∀ c ∈ word, isWord c = true := by
  revert word
  decide

theorem keyword_spelled {kind : DeclarationKind} (h : kind ∈ DeclarationKind.recognised) :
    kind.keyword ≠ [] ∧ ∀ c ∈ kind.keyword, isWord c = true := by
  revert kind
  decide

theorem keyword_not_mem_modifiers {kind : DeclarationKind}
    (h : kind ∈ DeclarationKind.recognised) : kind.keyword ∉ modifiers := by
  revert kind
  decide

theorem isParted_of_word {gap word : List Char} (hgap : IsGap gap) (hne : word ≠ [])
    (hword : ∀ c ∈ word, isWord c = true) (rest : List Char) :
    IsParted (gap ++ (word ++ rest)) := by
  obtain ⟨c, more, rfl⟩ := List.exists_cons_of_ne_nil hne
  have hc := hword c (List.mem_cons_self ..)
  exact ⟨gap, c, more ++ rest, hgap, isBlank_of_isWord hc, ne_of_holds hc (by decide), rfl⟩

theorem Leads.isParted {rest items : List Char} (h : Leads rest items) (hrest : IsParted rest) :
    IsParted items := by
  cases h with
  | done => exact hrest
  | attached hgap _ _ _ => exact ⟨_, '@', _, hgap, by decide, by decide, rfl⟩
  | modified hgap hword _ _ _ =>
    obtain ⟨hne, hspelled⟩ := modifier_spelled hword
    exact isParted_of_word hgap hne hspelled _

theorem HeaderForm.isParted {chars : List Char} (form : HeaderForm chars) :
    IsParted (form.gap ++ (form.kind.keyword ++ (form.nameGap ++ form.named))) := by
  obtain ⟨hne, hspelled⟩ := keyword_spelled form.isRecognised
  exact isParted_of_word form.isGap hne hspelled _

end Words

end EnumExport
