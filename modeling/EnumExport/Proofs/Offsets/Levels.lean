import EnumExport.Proofs.Reading.Blocks

namespace EnumExport

variable {α : Type}

def openBlocks (stretch : List Char) : Int := stretch.count '{' - stretch.count '}'

theorem openBlocks_append (front back : List Char) :
    openBlocks (front ++ back) = openBlocks front + openBlocks back := by
  simp only [openBlocks, List.count_append, Int.natCast_add]
  omega

theorem openBlocks_cons (c : Char) (stretch : List Char) :
    openBlocks (c :: stretch) = openBlocks [c] + openBlocks stretch :=
  openBlocks_append [c] stretch

def levelAt (text : List Char) (offset : Nat) : Int := openBlocks (text.take offset)

theorem levelAt_succ {text : List Char} {offset : Nat} {c : Char} (h : text[offset]? = some c) :
    levelAt text (offset + 1) = levelAt text offset + openBlocks [c] := by
  rw [levelAt, List.take_add_one, h, openBlocks_append]
  rfl

theorem openBlocks_drop_take {text : List Char} {start stop : Nat} (h : start ≤ stop) :
    openBlocks ((text.take stop).drop start) = levelAt text stop - levelAt text start := by
  have hsplit := List.take_append_drop start (text.take stop)
  rw [List.take_take, Nat.min_eq_left h] at hsplit
  have hlevel : levelAt text stop =
      levelAt text start + openBlocks ((text.take stop).drop start) := by
    rw [levelAt, levelAt, ← openBlocks_append, hsplit]
  omega

structure BracesMatch (text : List Char) (opening closing : Nat) : Prop where
  opens : text[opening]? = some '{'
  closes : text[closing]? = some '}'
  opening_lt : opening < closing
  balanced : BraceBalanced ((text.take closing).drop (opening + 1))

theorem bracesMatch_append {front inside after : List Char} (h : BraceBalanced inside) :
    BracesMatch (front ++ '{' :: (inside ++ '}' :: after)) front.length
      (front.length + 1 + inside.length) := by
  have hsplit : front ++ '{' :: (inside ++ '}' :: after) =
      (front ++ ['{']) ++ (inside ++ '}' :: after) := by simp
  have hlength : (front ++ ['{']).length = front.length + 1 := by simp
  have hinside : ((front ++ ['{']) ++ (inside ++ '}' :: after)).take
      ((front ++ ['{']).length + inside.length) = (front ++ ['{']) ++ inside := by
    rw [List.take_length_add_append, List.take_left]
  constructor
  · simp
  · rw [hsplit, List.getElem?_append_right (by omega), hlength,
      List.getElem?_append_right (by omega)]
    simp
  · omega
  · rw [hsplit, ← hlength, hinside, List.drop_left]
    exact h

namespace BracesMatch

variable {text : List Char} {opening closing opening' closing' : Nat}

theorem levelAt_succ_opening (h : BracesMatch text opening closing) :
    levelAt text (opening + 1) = levelAt text opening + 1 := levelAt_succ h.opens

theorem levelAt_succ_closing (h : BracesMatch text opening closing) :
    levelAt text (closing + 1) = levelAt text closing - 1 := levelAt_succ h.closes

theorem levelAt_closing (h : BracesMatch text opening closing) :
    levelAt text closing = levelAt text opening + 1 := by
  have hlt : opening + 1 ≤ closing := h.opening_lt
  have hinside := @openBlocks_drop_take text _ _ hlt
  have htotal := h.balanced.total
  have hopening := h.levelAt_succ_opening
  rw [openBlocks] at hinside
  omega

theorem lt_levelAt (h : BracesMatch text opening closing) {offset : Nat}
    (hopening : opening < offset) (hclosing : offset ≤ closing) :
    levelAt text opening < levelAt text offset := by
  have hfront : (text.take offset).drop (opening + 1) <+:
      (text.take closing).drop (opening + 1) := by
    rw [List.drop_take, List.drop_take]
    apply List.take_prefix_take_left
    omega
  have hnever := h.balanced.never_more _ hfront
  have hlt : opening + 1 ≤ offset := hopening
  have hlevel := @openBlocks_drop_take text _ _ hlt
  have hsucc := h.levelAt_succ_opening
  rw [openBlocks] at hlevel
  omega

theorem closing_ne_opening (h : BracesMatch text opening closing)
    (h' : BracesMatch text opening' closing') : closing ≠ opening' := by
  rintro rfl
  have hsame := h.closes.symm.trans h'.opens
  simp at hsame

theorem closing_lt (h : BracesMatch text opening closing)
    (h' : BracesMatch text opening' closing') (hopening : opening < opening')
    (hclosing : opening' < closing) : closing' < closing := by
  have houter := h.lt_levelAt hopening (Nat.le_of_lt hclosing)
  have hend := h.levelAt_closing
  by_contra hle
  rcases Nat.lt_or_eq_of_le (Nat.not_lt.mp hle) with hlt | rfl
  · -- The outer block is closed while the inner one is still open.
    have hbehind : opening' < closing + 1 := by omega
    have hinner := h'.lt_levelAt hbehind hlt
    have hafter := h.levelAt_succ_closing
    omega
  · have hend' := h'.levelAt_closing
    omega

theorem apart_or_nested (h : BracesMatch text opening closing)
    (h' : BracesMatch text opening' closing') (hne : opening ≠ opening') :
    closing < opening' ∨ closing' < opening ∨ (opening < opening' ∧ closing' < closing) ∨
      (opening' < opening ∧ closing < closing') := by
  have hends := h.closing_ne_opening h'
  have hends' := h'.closing_ne_opening h
  rcases Nat.lt_or_gt_of_ne hne with hlt | hlt
  · rcases Nat.lt_or_gt_of_ne hends with hapart | hinside
    · exact .inl hapart
    · exact .inr (.inr (.inl ⟨hlt, h.closing_lt h' hlt hinside⟩))
  · rcases Nat.lt_or_gt_of_ne hends' with hapart | hinside
    · exact .inr (.inl hapart)
    · exact .inr (.inr (.inr ⟨hlt, h'.closing_lt h hlt hinside⟩))

theorem opening_eq_of_depth (h : BracesMatch text opening closing)
    (h' : BracesMatch text opening' closing') {offset : Nat} (hopening : opening < offset)
    (hclosing : offset ≤ closing) (hopening' : opening' < offset) (hclosing' : offset ≤ closing')
    (hdepth : openBlocks ((text.take offset).drop opening) = 1)
    (hdepth' : openBlocks ((text.take offset).drop opening') = 1) : opening = opening' := by
  rw [openBlocks_drop_take (Nat.le_of_lt hopening)] at hdepth
  rw [openBlocks_drop_take (Nat.le_of_lt hopening')] at hdepth'
  by_contra hne
  rcases h.apart_or_nested h' hne with hapart | hapart | ⟨hlt, -⟩ | ⟨hlt, -⟩
  · omega
  · omega
  · have hinner := h.lt_levelAt hlt (by omega)
    omega
  · have hinner := h'.lt_levelAt hlt (by omega)
    omega

end BracesMatch

theorem levelAfter_eq {level : Nat} {gs : List (Glyph α)}
    (h : ∀ front, front <+: Glyph.text gs → front.count '}' ≤ level + front.count '{') :
    (levelAfter level gs : Int) = level + openBlocks (Glyph.text gs) := by
  induction gs generalizing level with
  | nil => simp [levelAfter, Glyph.text, openBlocks]
  | cons g gs ih =>
    have hrest : levelAfter level (g :: gs) = levelAfter (levelStep level g.shown) gs := rfl
    have htext : Glyph.text (g :: gs) = g.shown :: Glyph.text gs := rfl
    have hone := h [g.shown] ⟨Glyph.text gs, rfl⟩
    have hstep : (levelStep level g.shown : Int) = level + openBlocks [g.shown] := by
      by_cases hopen : g.shown = '{'
      · simp [levelStep, openBlocks, hopen]
      · by_cases hclose : g.shown = '}'
        · rw [hclose] at hone
          simp [levelStep, openBlocks, hclose] at hone ⊢
          omega
        · simp [levelStep, openBlocks, hopen, hclose]
    have hmore : ∀ front, front <+: Glyph.text gs →
        front.count '}' ≤ levelStep level g.shown + front.count '{' := by
      intro front hfront
      have hbound := h (g.shown :: front) ((List.prefix_cons_inj _).mpr hfront)
      have hcount := openBlocks_cons g.shown front
      simp only [openBlocks] at hcount hstep
      omega
    rw [hrest, ih hmore, hstep, htext, openBlocks_cons g.shown (Glyph.text gs), Int.add_assoc]

end EnumExport
