import EnumExport.Proofs.Printing.Statements

/-!
Agreement of two stretches of glyphs: they show the same, except that the first may have wider
blank stretches, and what stands behind them is the same except for what no number can reach. A
division takes stretches that agree apart into parts that agree.
-/

namespace EnumExport

open Glyph

def isForeign (c : Char) : Bool := !isWord c && !isBlank c && c != '-'

/-- Whether a foreign character has come up since the last equals sign, so that a raw value with
what follows in it has no number in it. -/
def veilAfter (veiled : Bool) (g h : Glyph Char) : Bool :=
  if g.shown = '=' then false else veiled || (g.source == h.source && isForeign g.source)

theorem veilAfter_eq_false {veiled : Bool} {g h : Glyph Char} (heq : veilAfter veiled g h = false) :
    g.shown = '=' ∨ veiled = false ∧ (g.source = h.source → isForeign g.source = false) := by
  unfold veilAfter at heq
  split at heq
  · exact .inl ‹_›
  · simp_all

/-- `loose` is whether a blank came last, so that more blanks may follow in the first stretch. -/
inductive Agrees : (loose veiled : Bool) → List (Glyph Char) → List (Glyph Char) → Prop
  | nil {loose veiled : Bool} : Agrees loose veiled [] []
  | both {loose veiled : Bool} {g h : Glyph Char} {gs hs : List (Glyph Char)} :
      g.shown = h.shown → (veiled = false → g.source = h.source) →
      Agrees (isBlank g.shown) (veilAfter veiled g h) gs hs →
        Agrees loose veiled (g :: gs) (h :: hs)
  | wider {g : Glyph Char} {gs hs : List (Glyph Char)} :
      isBlank g.shown = true → g.shown ≠ '\n' → Agrees true true gs hs →
      Agrees true true (g :: gs) hs

namespace Agrees

variable {loose veiled : Bool} {gs hs : List (Glyph Char)}

theorem mono {loose' veiled' : Bool} (h : Agrees loose veiled gs hs)
    (hloose : loose = true → loose' = true) (hveiled : veiled = true → veiled' = true) :
    Agrees loose' veiled' gs hs := by
  induction h generalizing loose' veiled' with
  | nil => exact .nil
  | @both _ veiled g h gs hs hshown hsource _ ih =>
    refine .both hshown (fun hv => hsource ?_) (ih id ?_)
    · cases veiled with
      | false => rfl
      | true => exact (hveiled rfl).symm.trans hv
    · unfold veilAfter
      split
      · exact id
      · simp only [Bool.or_eq_true]
        exact Or.imp_left hveiled
  | wider hblank hline h =>
    obtain rfl := hloose rfl
    obtain rfl := hveiled rfl
    exact .wider hblank hline h

theorem weaken (h : Agrees loose veiled gs hs) : Agrees true true gs hs :=
  h.mono (fun _ => rfl) (fun _ => rfl)

theorem refl (loose veiled : Bool) (gs : List (Glyph Char)) : Agrees loose veiled gs gs := by
  induction gs generalizing loose veiled with
  | nil => exact .nil
  | cons g gs ih => exact .both rfl (fun _ => rfl) (ih _ _)

theorem tight_cases (h : Agrees false veiled gs hs) :
    gs = [] ∧ hs = [] ∨ ∃ g d gs' hs', gs = g :: gs' ∧ hs = d :: hs' ∧ g.shown = d.shown ∧
      Agrees (isBlank g.shown) (veilAfter veiled g d) gs' hs' := by
  cases h with
  | nil => exact Or.inl ⟨rfl, rfl⟩
  | both hshown _ hrest => exact Or.inr ⟨_, _, _, _, rfl, rfl, hshown, hrest⟩

theorem dropWhile {p : Char → Bool} (hp : ∀ c, isBlank c = true → p c = true)
    (h : Agrees loose veiled gs hs) :
    ∃ veiled, Agrees false veiled (gs.dropWhile fun g => p g.shown)
      (hs.dropWhile fun g => p g.shown) := by
  induction h with
  | nil => exact ⟨true, .nil⟩
  | @both _ veiled g h gs hs hshown hsource hrest ih =>
    by_cases hg : p g.shown = true
    · have hh : p h.shown = true := hshown ▸ hg
      simpa [hg, hh] using ih
    · have hh : ¬ p h.shown = true := hshown ▸ hg
      refine ⟨veiled, ?_⟩
      simpa [hg, hh] using Agrees.both hshown hsource hrest
  | @wider g gs hs hblank _ _ ih => simpa [hp _ hblank] using ih

theorem skipBlanks (h : Agrees loose veiled gs hs) :
    ∃ veiled, Agrees false veiled (skipBlanks gs) (skipBlanks hs) := h.dropWhile fun _ => id

theorem skipBlanks_nil (h : Agrees loose veiled gs hs) (hgs : Glyph.skipBlanks gs = []) :
    Glyph.skipBlanks hs = [] := by
  obtain ⟨veiled', hskip⟩ := h.skipBlanks
  rw [hgs] at hskip
  rcases hskip.tight_cases with ⟨-, hhs⟩ | ⟨g, d, gs', hs', hcons, -⟩
  · exact hhs
  · simp at hcons

theorem skipBlanks_cons {g : Glyph Char} {rest : List (Glyph Char)}
    (h : Agrees loose veiled gs hs) (hgs : Glyph.skipBlanks gs = g :: rest) :
    ∃ d rest' veiled, Glyph.skipBlanks hs = d :: rest' ∧ g.shown = d.shown ∧
      Agrees false veiled (g :: rest) (d :: rest') ∧
      Agrees false (veilAfter veiled g d) rest rest' := by
  obtain ⟨veiled', hskip⟩ := h.skipBlanks
  rw [hgs] at hskip
  rcases hskip.tight_cases with ⟨hnil, -⟩ | ⟨g, d, rest, rest', hcons, hhs, hshown, hrest⟩
  · simp at hnil
  · obtain ⟨rfl, rfl⟩ := List.cons.inj hcons
    have hblank : isBlank g.shown = false := by
      have hnot := List.head?_dropWhile_not Glyph.isBlank gs
      rw [← Glyph.skipBlanks, hgs] at hnot
      simpa [Glyph.isBlank] using hnot
    rw [hblank] at hrest
    rw [hhs] at hskip
    exact ⟨d, rest', veiled', hhs, hshown, hskip, hrest⟩

theorem startsWithJoint_eq (h : Agrees loose veiled gs hs) :
    startsWithJoint gs = startsWithJoint hs := by
  rw [startsWithJoint, startsWithJoint]
  cases hgs : Glyph.skipBlanks gs with
  | nil => rw [h.skipBlanks_nil hgs]
  | cons g rest =>
    obtain ⟨d, rest', _, hhs, hshown, -⟩ := h.skipBlanks_cons hgs
    rw [hhs]
    exact congrArg isJoint hshown

def Extends (loose veiled : Bool) (before before' : List (Glyph Char)) : Prop :=
  ∀ gs hs, Agrees loose veiled gs hs →
    Agrees true true (before.reverse ++ gs) (before'.reverse ++ hs)

theorem extends_nil (loose veiled : Bool) : Extends loose veiled [] [] := fun _ _ h => h.weaken

theorem Extends.both {before before' : List (Glyph Char)} {g d : Glyph Char}
    (h : Extends loose veiled before before') (hshown : g.shown = d.shown)
    (hsource : veiled = false → g.source = d.source) :
    Extends (isBlank g.shown) (veilAfter veiled g d) (g :: before) (d :: before') := by
  intro gs hs hrest
  simpa using h _ _ (.both hshown hsource hrest)

theorem Extends.wider {before before' : List (Glyph Char)} {g : Glyph Char}
    (h : Extends true true before before') (hblank : isBlank g.shown = true)
    (hline : g.shown ≠ '\n') : Extends true true (g :: before) before' := by
  intro gs hs hrest
  simpa using h _ _ (.wider hblank hline hrest)

theorem Extends.reverse {before before' : List (Glyph Char)}
    (h : Extends loose veiled before before') :
    Agrees true true before.reverse before'.reverse := by
  simpa using h [] [] .nil

theorem startsWithJoint_cons {g d : Glyph Char} {before before' : List (Glyph Char)}
    (hshown : g.shown = d.shown) (hbefore : startsWithJoint before = startsWithJoint before') :
    startsWithJoint (g :: before) = startsWithJoint (d :: before') := by
  by_cases hg : isBlank g.shown = true
  · have hd : isBlank d.shown = true := hshown ▸ hg
    rw [startsWithJoint_of_isBlank hg, startsWithJoint_of_isBlank hd, hbefore]
  · have hg : isBlank g.shown = false := Bool.eq_false_iff.mpr hg
    have hd : isBlank d.shown = false := hshown ▸ hg
    rw [startsWithJoint_of_not_isBlank hg, startsWithJoint_of_not_isBlank hd, hshown]

theorem forall₂_partsFrom {division : Division} (hdivision : division.IsCoarse)
    (h : Agrees loose veiled gs hs) {depth : Nat} {before before' : List (Glyph Char)}
    (hbefore : Extends loose veiled before before')
    (hjoint : startsWithJoint before = startsWithJoint before') :
    List.Forall₂ (Agrees true true) (division.partsFrom depth before gs)
      (division.partsFrom depth before' hs) := by
  induction h generalizing depth before before' with
  | nil => exact .cons hbefore.reverse .nil
  | @both _ veiled g d gs hs hshown hsource hrest ih =>
    have hnext := hbefore.both hshown hsource
    have hjoint' := startsWithJoint_cons hshown hjoint
    have hseparates : division.separatesAt before g gs = division.separatesAt before' d hs := by
      simp only [Division.separatesAt, continues, hshown, hjoint, hrest.startsWithJoint_eq]
    simp only [Division.partsFrom, ← hshown, ← hseparates]
    split
    · exact ih hnext hjoint'
    · split
      · exact ih hnext hjoint'
      · split
        · exact .cons hbefore.reverse (ih (extends_nil _ _) rfl)
        · exact ih hnext hjoint'
  | wider hblank hline _ ih =>
    -- A blank that is no line end divides nothing and joins nothing.
    rw [Division.partsFrom_of_isPlain (Division.isPlain_of_isBlank hdivision hblank hline)]
    exact ih (hbefore.wider hblank hline) (by rw [startsWithJoint_of_isBlank hblank, hjoint])

theorem forall₂_parts {division : Division} (hdivision : division.IsCoarse)
    (h : Agrees loose veiled gs hs) :
    List.Forall₂ (Agrees true true) (division.parts gs) (division.parts hs) :=
  h.forall₂_partsFrom hdivision (extends_nil _ _) rfl

end Agrees

end EnumExport
