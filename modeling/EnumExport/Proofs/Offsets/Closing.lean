import EnumExport.Proofs.Offsets.Levels
import EnumExport.Proofs.Reading.Braces
import Mathlib.Order.Bounds.Basic

/-!
Closing braces: a block ends at the first place up to which as many braces are closed as opened.
Inside it no more are ever closed than opened, so that the count of open blocks which blanking
keeps is the difference, and what it leaves is what stands outside of the nested blocks.
-/

namespace EnumExport

open Glyph

variable {α : Type}

def closingPlace? (gs : List (Glyph α)) (opening : Nat) : Option Nat :=
  (blockInside? 0 (gs.drop (opening + 1))).map fun (inside, _) => opening + 1 + inside.length

def evenPlaces (text : List Char) (opening : Nat) : Set Nat :=
  {place | opening < place ∧ place < text.length ∧
    ((text.take (place + 1)).drop opening).count '{' =
      ((text.take (place + 1)).drop opening).count '}'}

theorem mem_evenPlaces_iff {text : List Char} {opening place : Nat} :
    place ∈ evenPlaces text opening ↔
      opening < place ∧ place < text.length ∧ levelAt text (place + 1) = levelAt text opening := by
  have hlevels (h : opening < place) := @openBlocks_drop_take text opening (place + 1) (by omega)
  constructor
  · rintro ⟨hlt, hplace, heven⟩
    have hlevel := hlevels hlt
    rw [openBlocks] at hlevel
    exact ⟨hlt, hplace, by omega⟩
  · rintro ⟨hlt, hplace, heven⟩
    have hlevel := hlevels hlt
    rw [openBlocks] at hlevel
    exact ⟨hlt, hplace, by omega⟩

theorem BracesMatch.isLeast {text : List Char} {opening closing : Nat}
    (h : BracesMatch text opening closing) : IsLeast (evenPlaces text opening) closing := by
  constructor
  · have hend := h.levelAt_closing
    have hbehind := h.levelAt_succ_closing
    have hlt : closing < text.length := by
      by_contra hle
      have hcloses := h.closes
      rw [List.getElem?_eq_none (by omega)] at hcloses
      exact nomatch hcloses
    exact mem_evenPlaces_iff.mpr ⟨h.opening_lt, hlt, by omega⟩
  · intro place hplace
    obtain ⟨hlt, -, heven⟩ := mem_evenPlaces_iff.mp hplace
    by_contra hbefore
    have hlevel := @BracesMatch.lt_levelAt text opening closing h (place + 1) (by omega) (by omega)
    omega

theorem isSome_blockInside? {depth i : Nat} {gs : List (Glyph α)} (hi : i < gs.length)
    (h : openBlocks ((text gs).take (i + 1)) = -(depth + 1)) :
    (blockInside? depth gs).isSome = true := by
  induction gs generalizing depth i with
  | nil => simp at hi
  | cons g gs ih =>
    have htext : (text (g :: gs)).take (i + 1) = g.shown :: (text gs).take i := rfl
    rw [htext, openBlocks_cons] at h
    have hrest {rest : Nat} (hrest : openBlocks ((text gs).take i) = -(rest + 1)) :
        (blockInside? rest gs).isSome = true := by
      cases i with
      | zero =>
        rw [List.take_zero] at hrest
        simp [openBlocks] at hrest
        omega
      | succ i => exact ih (by simpa using hi) hrest
    by_cases hopen : g.shown = '{'
    · have hone : openBlocks [g.shown] = 1 := by rw [hopen]; rfl
      simp only [blockInside?, if_pos hopen, Option.isSome_map]
      apply hrest
      omega
    · by_cases hclose : g.shown = '}'
      · have hone : openBlocks [g.shown] = -1 := by rw [hclose]; rfl
        simp only [blockInside?, if_neg hopen, if_pos hclose]
        cases depth with
        | zero => rfl
        | succ depth =>
          simp only [Option.isSome_map]
          apply hrest
          omega
      · have hnone : openBlocks [g.shown] = 0 := by simp [openBlocks, hopen, hclose]
        simp only [blockInside?, if_neg hopen, if_neg hclose, Option.isSome_map]
        apply hrest
        omega

section Closing

variable {gs : List (Glyph α)} {opening closing : Nat}

theorem exists_split_of_getElem? (h : (text gs)[opening]? = some '{') :
    ∃ brace : Glyph α, brace.shown = '{' ∧ (gs.take opening).length = opening ∧
      gs = gs.take opening ++ brace :: gs.drop (opening + 1) := by
  rw [text, List.getElem?_map, Option.map_eq_some_iff] at h
  obtain ⟨brace, hbrace, hshown⟩ := h
  obtain ⟨hlt, rfl⟩ := List.getElem?_eq_some_iff.mp hbrace
  refine ⟨gs[opening], hshown, by rw [List.length_take]; omega, ?_⟩
  rw [List.getElem_cons_drop, List.take_append_drop]

theorem bracesMatch_of_blockInside? (h : (text gs)[opening]? = some '{')
    {inside after : List (Glyph α)}
    (hblock : blockInside? 0 (gs.drop (opening + 1)) = some (inside, after)) :
    BracesMatch (text gs) opening (opening + 1 + inside.length) ∧
      (gs.take (opening + 1 + inside.length)).drop (opening + 1) = inside ∧
      gs.drop (opening + 1 + inside.length + 1) = after := by
  obtain ⟨brace, hbrace, hlength, hsplit⟩ := exists_split_of_getElem? h
  obtain ⟨close, hclose, hrest, hcloses⟩ := blockInside?_eq_some_iff.mp hblock
  have htext : text gs =
      text (gs.take opening) ++ '{' :: (text inside ++ '}' :: text after) := by
    conv => lhs; rw [hsplit, hrest]
    simp only [text, List.map_append, List.map_cons, hbrace, hclose]
  have hmatch := @bracesMatch_append (text (gs.take opening)) (text inside) (text after)
    hcloses.braceCounts
  have hfront : (text (gs.take opening)).length = opening := (List.length_map ..).trans hlength
  have hinside : (text inside).length = inside.length := List.length_map ..
  rw [← htext, hfront, hinside] at hmatch
  refine ⟨hmatch, ?_, ?_⟩
  · rw [List.drop_take, hrest, Nat.add_sub_cancel_left, List.take_left]
  · rw [Nat.add_assoc, ← List.drop_drop, hrest, ← List.drop_drop, List.drop_left, List.drop_one,
      List.tail_cons]

theorem isSome_closingPlace? (h : (text gs)[opening]? = some '{') {place : Nat}
    (hplace : place ∈ evenPlaces (text gs) opening) :
    (closingPlace? gs opening).isSome = true := by
  obtain ⟨hlt, hbound, heven⟩ := mem_evenPlaces_iff.mp hplace
  obtain ⟨i, rfl⟩ := Nat.exists_eq_add_of_lt hlt
  have hlength : (text gs).length = gs.length := List.length_map ..
  have hopens : levelAt (text gs) (opening + 1) = levelAt (text gs) opening + 1 := levelAt_succ h
  have hlevel : openBlocks ((text (gs.drop (opening + 1))).take (i + 1)) = -((0 : Nat) + 1) := by
    have hstretch : (text (gs.drop (opening + 1))).take (i + 1) =
        ((text gs).take (opening + i + 1 + 1)).drop (opening + 1) := by
      have hcount : opening + i + 1 + 1 - (opening + 1) = i + 1 := by omega
      rw [List.drop_take, hcount, text, text, List.map_drop]
    rw [hstretch, openBlocks_drop_take (by omega)]
    omega
  rw [closingPlace?, Option.isSome_map]
  apply isSome_blockInside? _ hlevel
  rw [List.length_drop]
  omega

theorem closingPlace?_eq_some_iff (h : (text gs)[opening]? = some '{') :
    closingPlace? gs opening = some closing ↔
      IsLeast (evenPlaces (text gs) opening) closing := by
  have hleast {closing : Nat} (hclosing : closingPlace? gs opening = some closing) :
      IsLeast (evenPlaces (text gs) opening) closing := by
    obtain ⟨⟨inside, after⟩, hblock, rfl⟩ := Option.map_eq_some_iff.mp hclosing
    exact (bracesMatch_of_blockInside? h hblock).1.isLeast
  constructor
  · exact hleast
  · intro hclosing
    obtain ⟨found, hfound⟩ := Option.isSome_iff_exists.mp (isSome_closingPlace? h hclosing.1)
    rw [hfound, (hleast hfound).unique hclosing]

theorem closingPlace?_eq_none_iff (h : (text gs)[opening]? = some '{') :
    closingPlace? gs opening = none ↔ evenPlaces (text gs) opening = ∅ := by
  constructor
  · intro hnone
    apply Set.eq_empty_of_forall_notMem
    intro place hplace
    have hsome := isSome_closingPlace? h hplace
    rw [hnone] at hsome
    exact absurd hsome (by decide)
  · intro hempty
    cases hclosing : closingPlace? gs opening with
    | none => rfl
    | some closing =>
      have hmem := ((closingPlace?_eq_some_iff h).mp hclosing).1
      rw [hempty] at hmem
      exact absurd hmem (Set.notMem_empty closing)

end Closing

section Flattening

variable {inside : List (Glyph α)}

theorem getElem?_flattenAt (level : Nat) (gs : List (Glyph α)) (i : Nat) :
    (text (flattenAt level gs))[i]? =
      (text gs)[i]?.map (flatShown (levelAfter level (gs.take i))) := by
  induction gs generalizing level i with
  | nil => simp [flattenAt, text]
  | cons g gs ih =>
    rw [flattenAt_cons]
    cases i with
    | zero => rfl
    | succ i => exact ih (levelStep level g.shown) i

theorem levelAfter_take (h : BraceBalanced (text inside)) (i : Nat) :
    (levelAfter 0 (inside.take i) : Int) = levelAt (text inside) i := by
  have htake : text (inside.take i) = (text inside).take i := by rw [text, text, List.map_take]
  have hnever : ∀ front, front <+: text (inside.take i) →
      front.count '}' ≤ 0 + front.count '{' := by
    intro front hfront
    rw [htake] at hfront
    exact h.never_more front (hfront.trans (List.take_prefix i _))
  have hlevel := levelAfter_eq hnever
  rw [hlevel, htake, levelAt]
  omega

theorem getElem?_flatten (h : BraceBalanced (text inside)) {i : Nat} {c : Char}
    (hc : (text inside)[i]? = some c) : (text (flatten inside))[i]? = some
      (if c = '{' ∨ c = '}' ∨ levelAt (text inside) i ≠ 0 ∧ c ≠ '\n' then ' ' else c) := by
  have hlevel := levelAfter_take h i
  have hopen : 0 < levelAfter 0 (inside.take i) ↔ levelAt (text inside) i ≠ 0 := by omega
  rw [flatten, getElem?_flattenAt, hc, Option.map_some, flatShown]
  simp only [hopen]

structure IsFlattened (inside flat : List Char) : Prop where
  length_eq : flat.length = inside.length
  no_brace : '{' ∉ flat ∧ '}' ∉ flat
  keeps_line_ends : ∀ i : Nat, inside[i]? = some '\n' → flat[i]? = some '\n'
  keeps_outside : ∀ (i : Nat) (c : Char), inside[i]? = some c → c ≠ '{' → c ≠ '}' →
    levelAt inside i = 0 → flat[i]? = some c
  blanks_rest : ∀ (i : Nat) (c : Char), inside[i]? = some c → c ≠ '\n' →
    c = '{' ∨ c = '}' ∨ levelAt inside i ≠ 0 → flat[i]? = some ' '

theorem isFlattened (h : BraceBalanced (text inside)) :
    IsFlattened (text inside) (text (flatten inside)) := by
  have hlength : (text (flatten inside)).length = (text inside).length := by
    rw [text, text, List.length_map, List.length_map, flatten, length_flattenAt]
  have hbrace {brace : Char} (hbrace : brace = '{' ∨ brace = '}') :
      brace ∉ text (flatten inside) := by
    intro hmem
    obtain ⟨i, hi⟩ := List.mem_iff_getElem?.mp hmem
    obtain ⟨hlt, -⟩ := List.getElem?_eq_some_iff.mp hi
    rw [getElem?_flatten h (List.getElem?_eq_getElem (hlength ▸ hlt)), Option.some_inj] at hi
    split at hi
    · rw [← hi] at hbrace
      exact absurd hbrace (by decide)
    · rename_i hkept
      rw [hi] at hkept
      exact hkept (hbrace.imp_right Or.inl)
  refine ⟨hlength, ⟨hbrace (.inl rfl), hbrace (.inr rfl)⟩, ?_, ?_, ?_⟩
  · intro i hc
    rw [getElem?_flatten h hc, if_neg (by simp)]
  · intro i c hc hopen hclose hlevel
    rw [getElem?_flatten h hc, if_neg (by simp [hopen, hclose, hlevel])]
  · intro i c hc hline hhidden
    rw [getElem?_flatten h hc,
      if_pos (hhidden.imp_right (Or.imp_right fun hlevel => ⟨hlevel, hline⟩))]

def CountsOpen (inside : List (Glyph α)) : Prop :=
  ∀ front g back, inside = front ++ g :: back →
    ∃ level : Nat, flatten inside = flattenAt 0 front ++ flattenAt level (g :: back) ∧
      level = openBlocks (text front) ∧ (g.shown = '}' → 0 < level)

theorem countsOpen (h : BraceBalanced (text inside)) : CountsOpen inside := by
  rintro front g back rfl
  have hlevel : (levelAfter 0 front : Int) = openBlocks (text front) := by
    have htake := levelAfter_take h front.length
    have hfront : (text front).length = front.length := List.length_map ..
    rwa [List.take_left, levelAt, text, List.map_append, ← text, ← hfront, List.take_left] at htake
  refine ⟨levelAfter 0 front, by rw [flatten, flattenAt_append], hlevel, ?_⟩
  intro hclose
  have hnever := h.never_more (text front ++ ['}']) ⟨text back, by simp [text, hclose]⟩
  rw [List.count_append, List.count_append] at hnever
  simp only [openBlocks] at hlevel
  simp at hnever
  omega

end Flattening

/-- The block behind an opening brace ends at the first place where the braces are even, and what
is between is counted and blanked block by block. -/
theorem block_closed_and_flattened {gs : List (Glyph α)} {opening : Nat}
    (h : (text gs)[opening]? = some '{') :
    (∀ closing, closingPlace? gs opening = some closing ↔
        IsLeast (evenPlaces (text gs) opening) closing) ∧
      (closingPlace? gs opening = none ↔ evenPlaces (text gs) opening = ∅) ∧
      ∀ closing, closingPlace? gs opening = some closing →
        ∃ inside, inside = (gs.take closing).drop (opening + 1) ∧
          blockInside? 0 (gs.drop (opening + 1)) = some (inside, gs.drop (closing + 1)) ∧
          BraceBalanced (text inside) ∧ CountsOpen inside ∧
          IsFlattened (text inside) (text (flatten inside)) := by
  refine ⟨fun closing => closingPlace?_eq_some_iff h, closingPlace?_eq_none_iff h, ?_⟩
  intro closing hclosing
  obtain ⟨⟨inside, after⟩, hblock, rfl⟩ := Option.map_eq_some_iff.mp hclosing
  obtain ⟨hmatch, hinside, hafter⟩ := bracesMatch_of_blockInside? h hblock
  have hbalanced : BraceBalanced (text inside) := by
    obtain ⟨brace, -, -, hcloses⟩ := blockInside?_eq_some_iff.mp hblock
    exact hcloses.braceCounts
  exact ⟨inside, hinside.symm, by rw [hblock, hafter], hbalanced, countsOpen hbalanced,
    isFlattened hbalanced⟩

theorem block_closed_and_flattened_sample :
    let gs := solid "x \x7b a \x7bb\n\x7d c \x7d \x7b".toList
    (text gs)[2]? = some '{' ∧ IsLeast (evenPlaces (text gs) 2) 13 ∧
      IsFlattened " a \x7bb\n\x7d c ".toList " a   \n  c ".toList := by
  intro gs
  have h : (text gs)[2]? = some '{' := by decide
  have hclosing : closingPlace? gs 2 = some 13 := by decide
  obtain ⟨hleast, -, hinside⟩ := block_closed_and_flattened h
  obtain ⟨inside, hstretch, -, -, -, hflat⟩ := hinside 13 hclosing
  have htexts : text inside = " a \x7bb\n\x7d c ".toList ∧
      text (flatten inside) = " a   \n  c ".toList := by
    rw [hstretch]
    decide
  rw [htexts.1, htexts.2] at hflat
  exact ⟨h, (hleast 13).mp hclosing, hflat⟩

end EnumExport
