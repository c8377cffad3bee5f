import EnumExport.Proofs.Masking.Solid
import EnumExport.Proofs.Reading.Extension

namespace EnumExport

open Glyph

variable {α : Type}

/-- Whether a text closes `depth` blocks more than it opens, and no beginning of it closes more. -/
structure BraceCounts (depth : Nat) (text : List Char) : Prop where
  never_more : ∀ front, front <+: text → front.count '}' ≤ depth + front.count '{'
  total : text.count '}' = depth + text.count '{'

abbrev BraceBalanced (text : List Char) : Prop := BraceCounts 0 text

inductive Closes : Nat → List Char → Prop
  | nil : Closes 0 []
  | opens {depth : Nat} {text : List Char} : Closes (depth + 1) text → Closes depth ('{' :: text)
  | closes {depth : Nat} {text : List Char} : Closes depth text → Closes (depth + 1) ('}' :: text)
  | plain {depth : Nat} {c : Char} {text : List Char} : c ≠ '{' → c ≠ '}' → Closes depth text →
      Closes depth (c :: text)

theorem braceCounts_cons_iff {depth rest : Nat} {c : Char} {text : List Char}
    (h : [c].count '}' + rest = depth + [c].count '{') :
    BraceCounts depth (c :: text) ↔ BraceCounts rest text := by
  have hcount (d : Char) (text : List Char) : (c :: text).count d = [c].count d + text.count d := by
    rw [← List.singleton_append, List.count_append]
  constructor
  · rintro ⟨hnever, htotal⟩
    rw [hcount '}' text, hcount '{' text] at htotal
    refine ⟨?_, by omega⟩
    intro front hfront
    have hbound := hnever (c :: front) ((List.prefix_cons_inj _).mpr hfront)
    rw [hcount '}' front, hcount '{' front] at hbound
    omega
  · rintro ⟨hnever, htotal⟩
    refine ⟨?_, by rw [hcount '}' text, hcount '{' text]; omega⟩
    intro front hfront
    cases front with
    | nil => exact Nat.zero_le _
    | cons d front =>
      obtain ⟨rfl, hrest⟩ := List.cons_prefix_cons.mp hfront
      have hbound := hnever front hrest
      rw [hcount '}' front, hcount '{' front]
      omega

theorem closes_of_braceCounts {depth : Nat} {text : List Char} (h : BraceCounts depth text) :
    Closes depth text := by
  induction text generalizing depth with
  | nil =>
    obtain rfl : depth = 0 := by simpa using h.total.symm
    exact .nil
  | cons c text ih =>
    by_cases hopen : c = '{'
    · subst hopen
      exact .opens (ih ((braceCounts_cons_iff (by simp)).mp h))
    · by_cases hclose : c = '}'
      · subst hclose
        have hone := h.never_more ['}'] (List.prefix_append ['}'] text)
        obtain ⟨inner, rfl⟩ : ∃ inner, depth = inner + 1 := ⟨depth - 1, by simp at hone; omega⟩
        exact .closes (ih ((braceCounts_cons_iff (by simp; omega)).mp h))
      · exact .plain hopen hclose (ih ((braceCounts_cons_iff (by simp [hopen, hclose])).mp h))

theorem Closes.braceCounts {depth : Nat} {text : List Char} (h : Closes depth text) :
    BraceCounts depth text := by
  induction h with
  | nil =>
    refine ⟨?_, rfl⟩
    intro front hfront
    rw [List.prefix_nil.mp hfront]
    exact Nat.zero_le _
  | opens _ ih => exact (braceCounts_cons_iff (by simp)).mpr ih
  | closes _ ih => exact (braceCounts_cons_iff (by simp; omega)).mpr ih
  | plain hopen hclose _ ih => exact (braceCounts_cons_iff (by simp [hopen, hclose])).mpr ih

namespace Closes

theorem append {depth left : Nat} {text more : List Char} (h : Closes depth text)
    (hmore : Closes left more) : Closes (depth + left) (text ++ more) := by
  induction h with
  | nil => simpa using hmore
  | opens _ ih => exact .opens (by rwa [Nat.add_right_comm] at ih)
  | closes _ ih => exact Nat.add_right_comm _ 1 _ ▸ .closes ih
  | plain hopen hclose _ ih => exact .plain hopen hclose ih

theorem block {depth : Nat} {block text : List Char} (hblock : Closes 0 block)
    (h : Closes depth text) : Closes depth ('{' :: (block ++ '}' :: text)) := by
  have hclose : Closes (0 + (depth + 1)) (block ++ '}' :: text) := hblock.append (.closes h)
  rw [Nat.zero_add] at hclose
  exact .opens hclose

theorem opens_iff {depth : Nat} {text : List Char} :
    Closes depth ('{' :: text) ↔ Closes (depth + 1) text := by
  constructor
  · intro h
    cases h with
    | opens h => exact h
    | plain hopen => exact absurd rfl hopen
  · exact .opens

theorem closes_iff {depth : Nat} {text : List Char} :
    Closes (depth + 1) ('}' :: text) ↔ Closes depth text := by
  constructor
  · intro h
    cases h with
    | closes h => exact h
    | plain _ hclose => exact absurd rfl hclose
  · exact .closes

theorem plain_iff {depth : Nat} {c : Char} {text : List Char} (hopen : c ≠ '{') (hclose : c ≠ '}') :
    Closes depth (c :: text) ↔ Closes depth text := by
  constructor
  · intro h
    cases h with
    | opens => exact absurd rfl hopen
    | closes => exact absurd rfl hclose
    | plain _ _ h => exact h
  · exact .plain hopen hclose

theorem not_closes_zero {text : List Char} : ¬ Closes 0 ('}' :: text) := by
  intro h
  cases h with
  | plain _ hclose => exact hclose rfl

instance decidable : (depth : Nat) → (text : List Char) → Decidable (Closes depth text)
  | 0, [] => isTrue .nil
  | _ + 1, [] => isFalse nofun
  | depth, c :: text =>
    if hopen : c = '{' then
      have := decidable (depth + 1) text
      decidable_of_iff (Closes (depth + 1) text) (by rw [hopen, opens_iff])
    else if hclose : c = '}' then
      match depth with
      | 0 => isFalse (hclose ▸ not_closes_zero)
      | depth + 1 =>
        have := decidable depth text
        decidable_of_iff (Closes depth text) (by rw [hclose, closes_iff])
    else
      have := decidable depth text
      decidable_of_iff (Closes depth text) (plain_iff hopen hclose).symm

theorem of_append {depth left : Nat} {text more : List Char} (h : Closes depth text)
    (hall : Closes (depth + left) (text ++ more)) : Closes left more := by
  induction h with
  | nil => rwa [Nat.zero_add] at hall
  | opens _ ih =>
    rw [List.cons_append, opens_iff, Nat.add_right_comm] at hall
    exact ih hall
  | closes _ ih =>
    rw [List.cons_append, Nat.add_right_comm, closes_iff] at hall
    exact ih hall
  | plain hopen hclose _ ih =>
    rw [List.cons_append, plain_iff hopen hclose] at hall
    exact ih hall

theorem exists_of_append {depth : Nat} {text more : List Char} (h : Closes depth (text ++ more)) :
    ∃ left, Closes left more ∧ ∀ other, Closes left other → Closes depth (text ++ other) := by
  induction text generalizing depth with
  | nil => exact ⟨depth, h, fun _ => id⟩
  | cons c text ih =>
    cases h with
    | opens h =>
      obtain ⟨left, hmore, hother⟩ := ih h
      exact ⟨left, hmore, fun other ho => .opens (hother other ho)⟩
    | closes h =>
      obtain ⟨left, hmore, hother⟩ := ih h
      exact ⟨left, hmore, fun other ho => .closes (hother other ho)⟩
    | plain hopen hclose h =>
      obtain ⟨left, hmore, hother⟩ := ih h
      exact ⟨left, hmore, fun other ho => .plain hopen hclose (hother other ho)⟩

theorem exchange {depth : Nat} {front block block' back : List Char} (hblock : Closes 0 block)
    (hblock' : Closes 0 block') (h : Closes depth (front ++ '{' :: (block ++ '}' :: back))) :
    Closes depth (front ++ '{' :: (block' ++ '}' :: back)) := by
  obtain ⟨left, hmore, hother⟩ := exists_of_append h
  rw [opens_iff] at hmore
  have hclose : Closes (left + 1) ('}' :: back) := hblock.of_append (by rwa [Nat.zero_add])
  exact hother _ (hblock'.block (closes_iff.mp hclose))

end Closes

theorem closes_of_not_mem {text : List Char} (hopen : '{' ∉ text) (hclose : '}' ∉ text) :
    Closes 0 text := by
  induction text with
  | nil => exact .nil
  | cons c text ih =>
    simp only [List.mem_cons, not_or] at hopen hclose
    exact .plain (Ne.symm hopen.1) (Ne.symm hclose.1) (ih hopen.2 hclose.2)

instance (depth : Nat) (text : List Char) : Decidable (BraceCounts depth text) :=
  decidable_of_iff (Closes depth text) ⟨Closes.braceCounts, closes_of_braceCounts⟩

def levelStep (level : Nat) (c : Char) : Nat :=
  if c = '{' then level + 1 else if c = '}' then level - 1 else level

def flatShown (level : Nat) (c : Char) : Char :=
  if c = '{' ∨ c = '}' ∨ 0 < level ∧ c ≠ '\n' then ' ' else c

theorem flattenAt_cons (level : Nat) (g : Glyph α) (gs : List (Glyph α)) :
    flattenAt level (g :: gs) =
      ⟨flatShown level g.shown, g.source⟩ :: flattenAt (levelStep level g.shown) gs := by
  simp only [flattenAt, flatShown, levelStep]
  by_cases hopen : g.shown = '{'
  · simp [hopen]
  · by_cases hclose : g.shown = '}'
    · simp [hclose]
    · by_cases hhidden : 0 < level ∧ g.shown ≠ '\n' <;> simp [hopen, hclose, hhidden]

theorem eq_of_flatShown {level : Nat} {c d : Char} (h : flatShown level c = d)
    (hd : isBlank d = false) : c = d ∧ level = 0 := by
  unfold flatShown at h
  split at h
  · rw [← h] at hd
    exact absurd hd (by decide)
  · rename_i hkept
    subst h
    have hline : c ≠ '\n' := by
      rintro rfl
      exact absurd hd (by decide)
    refine ⟨rfl, ?_⟩
    by_contra hlevel
    exact hkept (.inr (.inr ⟨by omega, hline⟩))

def levelAfter (level : Nat) (gs : List (Glyph α)) : Nat :=
  gs.foldl (fun level g => levelStep level g.shown) level

theorem flattenAt_append (level : Nat) (gs hs : List (Glyph α)) :
    flattenAt level (gs ++ hs) = flattenAt level gs ++ flattenAt (levelAfter level gs) hs := by
  induction gs generalizing level with
  | nil => rfl
  | cons g gs ih =>
    rw [List.cons_append, flattenAt_cons, flattenAt_cons, ih, List.cons_append]
    rfl

theorem blockInside?_of_closes {depth : Nat} {text : List Char} (h : Closes depth text)
    (after : List (Glyph Char)) :
    blockInside? depth (solid text ++ ⟨'}', '}'⟩ :: after) = some (solid text, after) := by
  induction h with
  | nil => simp [blockInside?]
  | opens _ ih => simp [blockInside?, ih]
  | closes _ ih => simp [blockInside?, ih]
  | plain hopen hclose _ ih => simp [blockInside?, hopen, hclose, ih]

theorem flattenAt_of_closes {depth : Nat} {text : List Char} (h : Closes depth text) (level : Nat)
    (rest : List (Glyph Char)) :
    flattenAt (level + depth + 1) (solid text ++ rest) =
      hidden text ++ flattenAt (level + 1) rest := by
  induction h generalizing level with
  | nil => rfl
  | opens _ ih =>
    rw [solid_cons, List.cons_append, flattenAt_cons]
    have hrest := ih level
    simp only [levelStep, flatShown, hidden_cons, ← Nat.add_assoc] at hrest ⊢
    simp [hrest]
  | @closes depth _ _ ih =>
    have hlevel : level + (depth + 1) + 1 - 1 = level + depth + 1 := by omega
    rw [solid_cons, List.cons_append, flattenAt_cons]
    simp [levelStep, flatShown, hlevel, ih]
  | @plain depth c _ hopen hclose _ ih =>
    rw [solid_cons, List.cons_append, flattenAt_cons]
    by_cases hline : c = '\n' <;> simp [levelStep, flatShown, hopen, hclose, hline, ih]

theorem flattenAt_block (level : Nat) {block : List Char} (h : Closes 0 block)
    (rest : List (Glyph Char)) :
    flattenAt level (⟨'{', '{'⟩ :: (solid block ++ ⟨'}', '}'⟩ :: rest)) =
      ⟨' ', '{'⟩ :: (hidden block ++ ⟨' ', '}'⟩ :: flattenAt level rest) := by
  have hblock := flattenAt_of_closes h level (⟨'}', '}'⟩ :: rest)
  rw [flattenAt_cons] at hblock ⊢
  simp only [levelStep, flatShown, Nat.add_zero] at hblock ⊢
  simp [hblock]

end EnumExport
