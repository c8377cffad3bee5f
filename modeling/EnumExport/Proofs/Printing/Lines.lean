import EnumExport.Proofs.Printing.Bodies

namespace EnumExport

open Glyph

variable {σ τ : Type}

structure Line (σ : Type) where
  lead : Spacing
  statement : σ
  trail : Spacing

def between (trail lead : Spacing) : Spacing :=
  ⟨trail.val ++ '\n' :: lead.val,
    List.forall_mem_append.mpr
      ⟨trail.property, List.forall_mem_cons.mpr ⟨by decide, lead.property⟩⟩⟩

namespace Line

section Text

variable (text : σ → List Char)

def textFrom (line : Line σ) : List (Line σ) → List Char
  | [] => text line.statement ++ line.trail.val
  | next :: lines =>
    text line.statement ++ ((between line.trail next.lead).val ++ textFrom next lines)

def bodyText : List (Line σ) → List Char
  | [] => []
  | line :: lines => line.lead.val ++ textFrom text line lines

variable {text}

theorem bodyText_induction {motive : List Char → Prop} (hnil : motive [])
    (happend : ∀ {front back : List Char}, motive front → motive back → motive (front ++ back))
    (hspacing : ∀ spacing : Spacing, motive spacing.val) (htext : ∀ s, motive (text s))
    (lines : List (Line σ)) : motive (bodyText text lines) := by
  cases lines with
  | nil => exact hnil
  | cons line lines =>
    apply happend (hspacing line.lead)
    induction lines generalizing line with
    | nil => exact happend (htext _) (hspacing _)
    | cons next lines ih => exact happend (htext _) (happend (hspacing _) (ih next))

end Text

section Shown

variable (shown : σ → List (Glyph Char))

def shownFrom (line : Line σ) : List (Line σ) → List (Glyph Char)
  | [] => shown line.statement ++ solid line.trail.val
  | next :: lines =>
    shown line.statement ++ (solid (between line.trail next.lead).val ++ shownFrom next lines)

def bodyShown : List (Line σ) → List (Glyph Char)
  | [] => []
  | line :: lines => solid line.lead.val ++ shownFrom shown line lines

variable {shown}

theorem forall_bodyShown {p : Glyph Char → Prop} (hspacing : ∀ c, isSpacing c = true → p ⟨c, c⟩)
    (hshown : ∀ s, ∀ g ∈ shown s, p g) (lines : List (Line σ)) :
    ∀ g ∈ bodyShown shown lines, p g := by
  have hsolid (spacing : Spacing) : ∀ g ∈ solid spacing.val, p g := by
    intro g hg
    obtain ⟨c, hc, rfl⟩ := List.mem_map.mp hg
    exact hspacing c (spacing.property c hc)
  cases lines with
  | nil => exact List.forall_mem_nil _
  | cons line lines =>
    refine List.forall_mem_append.mpr ⟨hsolid _, ?_⟩
    induction lines generalizing line with
    | nil => exact List.forall_mem_append.mpr ⟨hshown _, hsolid _⟩
    | cons next lines ih =>
      exact List.forall_mem_append.mpr ⟨hshown _, List.forall_mem_append.mpr ⟨hsolid _, ih next⟩⟩

theorem view_bodyText {text : σ → List Char} (view : List Char → List (Glyph Char))
    (hspacing : ∀ (spacing : Spacing) rest,
      view (spacing.val ++ rest) = solid spacing.val ++ view rest)
    (htext : ∀ s rest, (∀ c ∈ rest.head?, c ≠ '"') → view (text s ++ rest) = shown s ++ view rest)
    (lines : List (Line σ)) {rest : List Char} (hrest : ∀ c ∈ rest.head?, c ≠ '"') :
    view (bodyText text lines ++ rest) = bodyShown shown lines ++ view rest := by
  have hhead {spacing : Spacing} {more : List Char}
      (hmore : spacing.val = [] → ∀ c ∈ more.head?, c ≠ '"') :=
    head_ne_quote_of_holdsNoStop (holdsNoStop_spacing spacing) hmore
  cases lines with
  | nil => rfl
  | cons line lines =>
    rw [bodyText, List.append_assoc, hspacing, bodyShown, List.append_assoc]
    congr 1
    induction lines generalizing line with
    | nil =>
      rw [textFrom, shownFrom, List.append_assoc, htext _ _ (hhead fun _ => hrest),
        hspacing, List.append_assoc]
    | cons next lines ih =>
      have hbetween : (between line.trail next.lead).val ≠ [] := by simp [between]
      rw [textFrom, shownFrom, List.append_assoc, List.append_assoc,
        htext _ _ (hhead fun h => absurd h hbetween), hspacing, ih next, List.append_assoc,
        List.append_assoc]

end Shown

end Line

def Begins : (takenIn : Bool) → (before : List (Glyph Char)) → Prop
  | false, before => ShowsBlank before
  | true, before =>
    startsWithJoint before = true ∧ ∀ rest, afterCase? (before.reverse ++ rest) = none

theorem caseClauses_of_begins {takenIn : Bool} {before : List (Glyph Char)}
    (h : Begins takenIn before) : caseClauses (statementDivision.partsFrom 0 before []) = [] := by
  cases takenIn with
  | false => exact PrintedBody.caseClauses_nil h
  | true =>
    have hnone := h.2 []
    rw [List.append_nil] at hnone
    rw [Division.partsFrom, caseClauses, List.filterMap_cons_none hnone, List.filterMap_nil]

def listedFrom (joins : σ → Bool) (listed : σ → List τ) : (takenIn : Bool) → List σ → List τ
  | _, [] => []
  | takenIn, s :: rest =>
    (if takenIn then [] else listed s) ++ listedFrom joins listed (joins s) rest

theorem listedFrom_of_not_joins (listed : σ → List τ) (statements : List σ) :
    listedFrom (fun _ => false) listed false statements = statements.flatMap listed := by
  induction statements with
  | nil => rfl
  | cons s rest ih => rw [listedFrom, ih, List.flatMap_cons, if_neg Bool.false_ne_true]

/-- A kind of statements that can stand on lines: what one shows, whether it takes in the next one,
and which clauses it is divided into. -/
structure LineReading (σ τ : Type) where
  shown : σ → List (Glyph Char)
  joins : σ → Bool
  listed : σ → List τ
  IsClause : List (Glyph Char) → τ → Prop
  startsWithJoint_shown : ∀ s rest, startsWithJoint (shown s ++ rest) = false
  exists_caseClauses : ∀ (s : σ) {takenIn : Bool} {before : List (Glyph Char)},
    Begins takenIn before → ∀ (spacing : Spacing) {rest : List (Glyph Char)},
      startsWithJoint rest = false → (rest = [] ∨ '\n' ∈ spacing.val) →
      ∃ clauses after, Begins (joins s) after ∧
        List.Forall₂ IsClause clauses (if takenIn then [] else listed s) ∧
        caseClauses
            (statementDivision.partsFrom 0 before (shown s ++ (solid spacing.val ++ rest))) =
          clauses ++ caseClauses (statementDivision.partsFrom 0 after rest)

namespace LineReading

variable (reading : LineReading σ τ)

theorem startsWithJoint_shownFrom (line : Line σ) (lines : List (Line σ)) :
    startsWithJoint (Line.shownFrom reading.shown line lines) = false := by
  cases lines <;> exact reading.startsWithJoint_shown _ _

theorem forall₂_shownFrom (line : Line σ) (lines : List (Line σ)) {takenIn : Bool}
    {before : List (Glyph Char)} (hbegins : Begins takenIn before) :
    List.Forall₂ reading.IsClause
      (caseClauses (statementDivision.partsFrom 0 before (Line.shownFrom reading.shown line lines)))
      (listedFrom reading.joins reading.listed takenIn
        (line.statement :: lines.map Line.statement)) := by
  induction lines generalizing line takenIn before with
  | nil =>
    obtain ⟨clauses, after, hafter, hclauses, he⟩ :=
      reading.exists_caseClauses line.statement hbegins line.trail startsWithJoint_nil (Or.inl rfl)
    rw [List.append_nil] at he
    rw [Line.shownFrom, he, caseClauses_of_begins hafter]
    exact List.rel_append hclauses .nil
  | cons next lines ih =>
    -- What the statement leaves behind is what the one below begins with.
    obtain ⟨clauses, after, hafter, hclauses, he⟩ :=
      reading.exists_caseClauses line.statement hbegins (between line.trail next.lead)
        (reading.startsWithJoint_shownFrom next lines) (Or.inr (by simp [between]))
    rw [Line.shownFrom, he]
    exact List.rel_append hclauses (ih next hafter)

theorem forall₂_bodyShown (lines : List (Line σ)) :
    List.Forall₂ reading.IsClause
      (caseClauses (statementDivision.parts (Line.bodyShown reading.shown lines)))
      (listedFrom reading.joins reading.listed false (lines.map Line.statement)) := by
  cases lines with
  | nil =>
    have hnone : caseClauses (statementDivision.parts []) = [] :=
      PrintedBody.caseClauses_nil (List.forall_mem_nil _)
    rw [Line.bodyShown, hnone]
    exact .nil
  | cons line lines =>
    obtain ⟨blanks, hblanks, he⟩ := exists_caseClauses_gap (showsBlank_solid line.lead).showsGap
      (List.forall_mem_nil _) (reading.startsWithJoint_shownFrom line lines)
    rw [Line.bodyShown, Division.parts, he]
    exact reading.forall₂_shownFrom line lines hblanks

end LineReading

end EnumExport
