import EnumExport.Proofs.Reading.Blocks
import Mathlib.Data.List.TakeWhile

namespace EnumExport

open Glyph

variable {α : Type}

theorem blockInside?_eq_some_iff {depth : Nat} {gs inside after : List (Glyph α)} :
    blockInside? depth gs = some (inside, after) ↔
      ∃ brace, brace.shown = '}' ∧ gs = inside ++ brace :: after ∧ Closes depth (text inside) := by
  induction gs generalizing depth inside with
  | nil => simp [blockInside?]
  | cons g gs ih =>
    have hstep {rest : Nat} (hcloses : ∀ inner, Closes depth (text (g :: inner)) ↔
        Closes rest (text inner)) (hnil : g.shown = '}' → ¬ Closes depth []) :
        (blockInside? rest gs).map (fun found => (g :: found.1, found.2)) =
            some (inside, after) ↔
          ∃ brace, brace.shown = '}' ∧ g :: gs = inside ++ brace :: after ∧
            Closes depth (text inside) := by
      constructor
      · intro h
        obtain ⟨⟨inner, tail⟩, hinner, he⟩ := Option.map_eq_some_iff.mp h
        obtain ⟨rfl, rfl⟩ := Prod.mk.inj he
        obtain ⟨brace, hbrace, rfl, hinside⟩ := ih.mp hinner
        exact ⟨brace, hbrace, rfl, (hcloses inner).mpr hinside⟩
      · rintro ⟨brace, hbrace, hsplit, hinside⟩
        cases inside with
        | nil =>
          obtain ⟨rfl, rfl⟩ := List.cons.inj hsplit
          exact absurd hinside (hnil hbrace)
        | cons d inner =>
          obtain ⟨rfl, rfl⟩ := List.cons.inj hsplit
          rw [ih.mpr ⟨brace, hbrace, rfl, (hcloses inner).mp hinside⟩]
          rfl
    by_cases hopen : g.shown = '{'
    · simp only [blockInside?, if_pos hopen]
      apply hstep
      · intro inner
        rw [text, List.map_cons, hopen, Closes.opens_iff, text]
      · simp [hopen]
    · by_cases hclose : g.shown = '}'
      · simp only [blockInside?, if_neg hopen, if_pos hclose]
        cases depth with
        | zero =>
          constructor
          · intro h
            obtain ⟨rfl, rfl⟩ := Prod.mk.inj (Option.some.inj h)
            exact ⟨g, hclose, rfl, .nil⟩
          · rintro ⟨brace, hbrace, hsplit, hinside⟩
            cases inside with
            | nil =>
              obtain ⟨rfl, rfl⟩ := List.cons.inj hsplit
              rfl
            | cons d inner =>
              obtain ⟨rfl, rfl⟩ := List.cons.inj hsplit
              rw [text, List.map_cons, hclose] at hinside
              exact absurd hinside Closes.not_closes_zero
        | succ depth =>
          apply hstep
          · intro inner
            rw [text, List.map_cons, hclose, Closes.closes_iff, text]
          · intro _ h
            cases h
      · simp only [blockInside?, if_neg hopen, if_neg hclose]
        apply hstep
        · intro inner
          rw [text, List.map_cons, Closes.plain_iff hopen hclose, text]
        · exact fun h => absurd h hclose

structure IsBodied (rest inside : List (Glyph α)) (opening closing : Glyph α)
    (front after : List (Glyph α)) : Prop where
  split : rest = front ++ opening :: (inside ++ closing :: after)
  first : ∀ g ∈ front, g.shown ≠ '{'
  opens : opening.shown = '{'
  closes : closing.shown = '}'
  balanced : BraceBalanced (text inside)

theorem dropWhile_eq_cons_iff {p : α → Bool} {xs rest : List α} {x : α} :
    xs.dropWhile p = x :: rest ↔
      ∃ front, xs = front ++ x :: rest ∧ (∀ y ∈ front, p y = true) ∧ p x = false := by
  constructor
  · intro h
    have hsplit := List.takeWhile_append_dropWhile (p := p) (l := xs)
    have hstop := List.head?_dropWhile_not p xs
    rw [h] at hsplit hstop
    exact ⟨xs.takeWhile p, hsplit.symm, fun y hy => List.mem_takeWhile_imp hy, by simpa using hstop⟩
  · rintro ⟨front, rfl, hfront, hx⟩
    apply dropWhile_append_of_stop hfront
    rintro y ⟨⟩
    exact hx

namespace IsBodied

variable {rest inside front after : List (Glyph α)} {opening closing : Glyph α}

theorem dropWhile_eq (h : IsBodied rest inside opening closing front after) :
    rest.dropWhile (·.shown != '{') = opening :: (inside ++ closing :: after) := by
  apply dropWhile_eq_cons_iff.mpr
  exact ⟨front, h.split, fun g hg => by simpa using h.first g hg, by simp [h.opens]⟩

theorem blockInside?_eq (h : IsBodied rest inside opening closing front after) :
    blockInside? 0 (inside ++ closing :: after) = some (inside, after) :=
  blockInside?_eq_some_iff.mpr ⟨closing, h.closes, rfl, closes_of_braceCounts h.balanced⟩

end IsBodied

theorem body?_eq_ok_iff {rest inside : List (Glyph α)} :
    body? rest = .ok inside ↔
      ∃ opening closing front after, IsBodied rest inside opening closing front after := by
  constructor
  · intro h
    unfold body? at h
    split at h
    · simp at h
    · rename_i opening tail hdrop
      split at h
      · simp at h
      · rename_i inside' after hblock
        obtain rfl := Except.ok.inj h
        obtain ⟨front, rfl, hfront, hopening⟩ := dropWhile_eq_cons_iff.mp hdrop
        obtain ⟨closing, hclosing, rfl, hcloses⟩ := blockInside?_eq_some_iff.mp hblock
        refine ⟨opening, closing, front, after, rfl, ?_, by simpa using hopening, hclosing,
          hcloses.braceCounts⟩
        exact fun g hg => by simpa using hfront g hg
  · rintro ⟨opening, closing, front, after, h⟩
    rw [body?, h.dropWhile_eq]
    simp only [h.blockInside?_eq]

def BodyFault.IsSeenIn : BodyFault → List Char → Prop
  | .missing, rest => '{' ∉ rest
  | .unbalanced, rest => ∃ front tail, rest = front ++ '{' :: tail ∧ '{' ∉ front ∧
      ∀ inside after, tail = inside ++ '}' :: after → ¬ BraceBalanced inside

theorem blockInside?_eq_none_iff {gs : List (Glyph α)} :
    blockInside? 0 gs = none ↔
      ∀ inside after, text gs = inside ++ '}' :: after → ¬ BraceBalanced inside := by
  constructor
  · intro h inside after hsplit hbalanced
    obtain ⟨front, back, rfl, rfl, hback⟩ := List.map_eq_append_iff.mp hsplit
    obtain ⟨brace, rest, rfl, hbrace, -⟩ := List.map_eq_cons_iff.mp hback
    have hblock : blockInside? 0 (front ++ brace :: rest) = some (front, rest) :=
      blockInside?_eq_some_iff.mpr ⟨brace, hbrace, rfl, closes_of_braceCounts hbalanced⟩
    rw [h] at hblock
    exact nomatch hblock
  · intro h
    cases hblock : blockInside? 0 gs with
    | none => rfl
    | some found =>
      obtain ⟨brace, hbrace, rfl, hcloses⟩ := blockInside?_eq_some_iff.mp hblock
      refine absurd hcloses.braceCounts (h (text found.1) (text found.2) ?_)
      rw [text, List.map_append, List.map_cons, hbrace, text, text]

theorem not_mem_text {c : Char} {gs : List (Glyph α)} (h : ∀ g ∈ gs, (g.shown != c) = true) :
    c ∉ text gs := by
  intro hmem
  obtain ⟨g, hg, hshown⟩ := List.mem_map.mp hmem
  simpa [hshown] using h g hg

theorem body?_eq_missing_iff {rest : List (Glyph α)} :
    body? rest = .error .missing ↔ '{' ∉ text rest := by
  cases hdrop : rest.dropWhile (·.shown != '{') with
  | nil =>
    rw [body?, hdrop]
    exact ⟨fun _ => not_mem_text (List.dropWhile_eq_nil_iff.mp hdrop), fun _ => rfl⟩
  | cons opening tail =>
    obtain ⟨front, rfl, -, hopening⟩ := dropWhile_eq_cons_iff.mp hdrop
    have hopens : opening.shown = '{' := by simpa using hopening
    have hmem : '{' ∈ text (front ++ opening :: tail) := by simp [text, hopens]
    cases hblock : blockInside? 0 tail <;> simp [body?, hdrop, hblock, hmem]

theorem body?_eq_unbalanced_iff {rest : List (Glyph α)} :
    body? rest = .error .unbalanced ↔
      ∃ front tail, text rest = front ++ '{' :: tail ∧ '{' ∉ front ∧
        ∀ inside after, tail = inside ++ '}' :: after → ¬ BraceBalanced inside := by
  cases hdrop : rest.dropWhile (·.shown != '{') with
  | nil =>
    have hnot := not_mem_text (List.dropWhile_eq_nil_iff.mp hdrop)
    constructor
    · intro h
      rw [body?, hdrop] at h
      cases h
    · rintro ⟨front, tail, hsplit, -, -⟩
      exact absurd (by simp [hsplit]) hnot
  | cons opening tail =>
    obtain ⟨front, rfl, hfront, hopening⟩ := dropWhile_eq_cons_iff.mp hdrop
    have hopens : opening.shown = '{' := by simpa using hopening
    have htext : text (front ++ opening :: tail) = text front ++ '{' :: text tail := by
      rw [text, List.map_append, List.map_cons, hopens, text, text]
    have hnone : body? (front ++ opening :: tail) = .error .unbalanced ↔
        blockInside? 0 tail = none := by
      cases hblock : blockInside? 0 tail <;> simp [body?, hdrop, hblock]
    rw [hnone, htext, blockInside?_eq_none_iff]
    constructor
    · intro h
      exact ⟨text front, text tail, rfl, not_mem_text hfront, h⟩
    · rintro ⟨front', tail', hsplit, hfirst, h⟩
      rwa [(append_cons_inj_of_not_mem (not_mem_text hfront) hfirst hsplit).2]

theorem body?_eq_error_iff {rest : List (Glyph α)} {fault : BodyFault} :
    body? rest = .error fault ↔ fault.IsSeenIn (text rest) := by
  cases fault with
  | missing => exact body?_eq_missing_iff
  | unbalanced => exact body?_eq_unbalanced_iff

theorem length_flattenAt (level : Nat) (gs : List (Glyph α)) :
    (flattenAt level gs).length = gs.length := by
  have hsource := congrArg List.length (map_source_flattenAt level gs)
  rwa [List.length_map, List.length_map] at hsource

theorem exists_of_flattenAt_eq_append {level : Nat} {gs front rest : List (Glyph α)}
    (h : flattenAt level gs = front ++ rest) :
    ∃ front' rest', gs = front' ++ rest' ∧ flattenAt level front' = front ∧
      flattenAt (levelAfter level front') rest' = rest := by
  have hlength := congrArg List.length h
  rw [length_flattenAt, List.length_append] at hlength
  have hfront : (flattenAt level (gs.take front.length)).length = front.length := by
    rw [length_flattenAt, List.length_take]
    omega
  refine ⟨gs.take front.length, gs.drop front.length, (List.take_append_drop _ _).symm, ?_⟩
  rw [← List.take_append_drop front.length gs, flattenAt_append] at h
  exact List.append_inj h hfront

theorem exists_of_flattenAt_eq_run {level : Nat} {gs run back : List (Glyph α)}
    (h : flattenAt level gs = run ++ back) (hrun : ∀ g ∈ run, isBlank g.shown = false) :
    (∃ back', gs = run ++ back') ∧ (run ≠ [] → level = 0) := by
  induction run generalizing level gs with
  | nil => exact ⟨⟨gs, rfl⟩, fun hne => absurd rfl hne⟩
  | cons g run ih =>
    obtain ⟨hg, hmore⟩ := List.forall_mem_cons.mp hrun
    cases gs with
    | nil => simp [flattenAt] at h
    | cons d ds =>
      rw [flattenAt_cons, List.cons_append, List.cons.injEq] at h
      obtain ⟨hhead, htail⟩ := h
      obtain ⟨hshown, hlevel⟩ := eq_of_flatShown (congrArg Glyph.shown hhead) hg
      obtain rfl : d = g := by
        cases d
        cases g
        simp_all
      obtain ⟨⟨back', rfl⟩, -⟩ := ih htail hmore
      exact ⟨⟨back', rfl⟩, fun _ => hlevel⟩

theorem exists_of_isInfix_flatten {inside run : List (Glyph α)} (h : run <:+: flatten inside)
    (hne : run ≠ []) (hrun : ∀ g ∈ run, isBlank g.shown = false) :
    ∃ front back, inside = front ++ (run ++ back) ∧ levelAfter 0 front = 0 := by
  obtain ⟨front, back, hsplit⟩ := h
  rw [List.append_assoc] at hsplit
  obtain ⟨front', rest, rfl, -, hrest⟩ := exists_of_flattenAt_eq_append hsplit.symm
  obtain ⟨⟨back', rfl⟩, hlevel⟩ := exists_of_flattenAt_eq_run hrest hrun
  exact ⟨front', back', rfl, hlevel hne⟩

end EnumExport
