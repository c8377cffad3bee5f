import EnumExport.Proofs.Masking.Solid
import EnumExport.Proofs.Printing.Characters

namespace EnumExport

theorem startsWithJoint_nil : startsWithJoint ([] : List (Glyph Char)) = false := rfl

theorem startsWithJoint_of_isBlank {g : Glyph Char} {gs : List (Glyph Char)}
    (h : isBlank g.shown = true) : startsWithJoint (g :: gs) = startsWithJoint gs := by
  simp [startsWithJoint, Glyph.skipBlanks, Glyph.isBlank, h]

theorem startsWithJoint_of_not_isBlank {g : Glyph Char} {gs : List (Glyph Char)}
    (h : isBlank g.shown = false) : startsWithJoint (g :: gs) = isJoint g.shown := by
  simp [startsWithJoint, Glyph.skipBlanks, Glyph.isBlank, h]

theorem isSolid_of_holdsNoStop {text : List Char} (h : HoldsNoStop text) : IsSolid text :=
  fun c hc => ⟨ne_of_isStop (h c hc) (by decide), ne_of_isStop (h c hc) (by decide)⟩

theorem shown_ne_of_holdsNoStop {text : List Char} (h : HoldsNoStop text) {d : Char}
    (hd : isStop d = true) : ∀ g ∈ solid text, g.shown ≠ d := by
  intro g hg
  obtain ⟨c, hc, rfl⟩ := List.mem_map.mp hg
  exact ne_of_isStop (h c hc) hd

theorem isBlank_of_isSpacing {c : Char} (h : isSpacing c = true) : isBlank c = true := by
  simp only [isSpacing, Bool.or_eq_true, beq_iff_eq] at h
  rcases h with (rfl | rfl) | rfl <;> decide

namespace Division

def IsPlain (division : Division) (c : Char) : Prop :=
  opensGroup c = false ∧ closesGroup c = false ∧ division.isSeparator c = false

theorem partsFrom_of_isPlain {division : Division} {g : Glyph Char} (h : division.IsPlain g.shown)
    (depth : Nat) (before rest : List (Glyph Char)) :
    division.partsFrom depth before (g :: rest) = division.partsFrom depth (g :: before) rest := by
  simp [partsFrom, separatesAt, h.1, h.2.1, h.2.2]

theorem partsFrom_inside {division : Division} {g : Glyph Char}
    (hopens : opensGroup g.shown = false) (hcloses : closesGroup g.shown = false) (depth : Nat)
    (before rest : List (Glyph Char)) :
    division.partsFrom (depth + 1) before (g :: rest) =
      division.partsFrom (depth + 1) (g :: before) rest := by
  simp [partsFrom, hopens, hcloses]

theorem partsFrom_opensGroup {division : Division} {g : Glyph Char}
    (h : opensGroup g.shown = true) (depth : Nat) (before rest : List (Glyph Char)) :
    division.partsFrom depth before (g :: rest) =
      division.partsFrom (depth + 1) (g :: before) rest := by
  simp [partsFrom, h]

theorem partsFrom_closesGroup {division : Division} {g : Glyph Char}
    (hopens : opensGroup g.shown = false) (h : closesGroup g.shown = true) (depth : Nat)
    (before rest : List (Glyph Char)) :
    division.partsFrom (depth + 1) before (g :: rest) =
      division.partsFrom depth (g :: before) rest := by
  simp [partsFrom, hopens, h]

theorem partsFrom_wellNested (division : Division) {text : List Char} (h : WellNested text)
    (depth : Nat) (before rest : List (Glyph Char)) :
    division.partsFrom (depth + 1) before (solid text ++ rest) =
      division.partsFrom (depth + 1) ((solid text).reverse ++ before) rest := by
  -- One group at least stays open throughout, so no separator counts.
  induction h generalizing depth before rest with
  | nil => rfl
  | plain hopens hcloses _ ih =>
    rw [solid_cons, List.cons_append, partsFrom_inside hopens hcloses, ih]
    simp
  | round _ _ hinner htext =>
    simp only [List.cons_append, solid_cons, solid_append, List.append_assoc]
    rw [partsFrom_opensGroup rfl, hinner, partsFrom_closesGroup rfl rfl, htext]
    simp
  | square _ _ hinner htext =>
    simp only [List.cons_append, solid_cons, solid_append, List.append_assoc]
    rw [partsFrom_opensGroup rfl, hinner, partsFrom_closesGroup rfl rfl, htext]
    simp

def Crosses (division : Division) (gs : List (Glyph Char)) : Prop :=
  ∀ before rest : List (Glyph Char),
    division.partsFrom 0 before (gs ++ rest) = division.partsFrom 0 (gs.reverse ++ before) rest

theorem Crosses.append {division : Division} {gs hs : List (Glyph Char)} (h : division.Crosses gs)
    (hhs : division.Crosses hs) : division.Crosses (gs ++ hs) := by
  intro before rest
  rw [List.append_assoc, h, hhs]
  simp

theorem crosses_of_isPlain {division : Division} {gs : List (Glyph Char)}
    (h : ∀ g ∈ gs, division.IsPlain g.shown) : division.Crosses gs := by
  induction gs with
  | nil => exact fun _ _ => rfl
  | cons g gs ih =>
    intro before rest
    rw [List.cons_append, partsFrom_of_isPlain (h g (List.mem_cons_self ..)),
      ih fun d hd => h d (List.mem_cons_of_mem _ hd)]
    simp

def Passes (division : Division) (text : List Char) : Prop :=
  ∀ before rest : List (Glyph Char),
    division.partsFrom 0 before (solid text ++ rest) =
      division.partsFrom 0 ((solid text).reverse ++ before) rest

theorem passes_iff_crosses {division : Division} {text : List Char} :
    division.Passes text ↔ division.Crosses (solid text) := Iff.rfl

theorem Passes.append {division : Division} {text more : List Char} (h : division.Passes text)
    (hmore : division.Passes more) : division.Passes (text ++ more) := by
  rw [passes_iff_crosses, solid_append]
  exact Crosses.append h hmore

theorem passes_of_isPlain {division : Division} {text : List Char}
    (h : ∀ c ∈ text, division.IsPlain c) : division.Passes text := by
  apply crosses_of_isPlain
  intro g hg
  obtain ⟨c, hc, rfl⟩ := List.mem_map.mp hg
  exact h c hc

theorem passes_group {division : Division} {inner : List Char} (h : WellNested inner)
    {opening closing : Char} (hopening : opensGroup opening = true)
    (hopens : opensGroup closing = false) (hcloses : closesGroup closing = true) :
    division.Passes (opening :: inner ++ [closing]) := by
  intro before rest
  simp only [List.cons_append, solid_cons, solid_append, List.append_assoc, solid_nil,
    List.nil_append]
  rw [partsFrom_opensGroup hopening, division.partsFrom_wellNested h,
    partsFrom_closesGroup hopens hcloses]
  simp

theorem passes_of_wellNested {division : Division} {text : List Char} (h : WellNested text)
    (hplain : ∀ c ∈ text, division.isSeparator c = false) : division.Passes text := by
  induction h with
  | nil => exact fun _ _ => rfl
  | plain hopens hcloses _ ih =>
    obtain ⟨hc, htext⟩ := List.forall_mem_cons.mp hplain
    have hplain := passes_of_isPlain (List.forall_mem_singleton.mpr ⟨hopens, hcloses, hc⟩)
    exact hplain.append (ih htext)
  | @round inner text hinner _ _ ih =>
    have htext : ∀ c ∈ text, division.isSeparator c = false := fun c hc => hplain c (by simp [hc])
    have hgroup : division.Passes ('(' :: inner ++ [')']) := passes_group hinner rfl rfl rfl
    simpa using hgroup.append (ih htext)
  | @square inner text hinner _ _ ih =>
    have htext : ∀ c ∈ text, division.isSeparator c = false := fun c hc => hplain c (by simp [hc])
    have hgroup : division.Passes ('[' :: inner ++ [']']) := passes_group hinner rfl rfl rfl
    simpa using hgroup.append (ih htext)

theorem passes_values (division : Division) (values : AssociatedValues) :
    division.Passes values.text := passes_group values.wellNested rfl rfl rfl

def IsCoarse (division : Division) : Prop :=
  ∀ c, division.isSeparator c = true → c ∈ [';', '\n', ',']

theorem isPlain_of_not_mem {division : Division} (hd : division.IsCoarse) {c : Char}
    (h : c ∉ ['(', '[', ')', ']', ';', '\n', ',']) : division.IsPlain c := by
  refine ⟨?_, ?_, ?_⟩
  · simp_all [opensGroup]
  · simp_all [closesGroup]
  · rw [Bool.eq_false_iff]
    intro hs
    exact h (List.mem_append_right ['(', '[', ')', ']'] (hd c hs))

theorem isPlain_of_isWord {division : Division} (hd : division.IsCoarse) {c : Char}
    (h : isWord c = true) : division.IsPlain c := by
  have hnot : ∀ d ∈ ['(', '[', ')', ']', ';', '\n', ','], isWord d = false := by decide
  apply isPlain_of_not_mem hd
  intro hc
  exact ne_of_holds h (hnot c hc) rfl

theorem passes_signed {division : Division} (hd : division.IsCoarse) (signed : SignedLiteral) :
    division.Passes signed.text := by
  apply passes_of_isPlain
  intro c hc
  rcases SignedLiteral.mem_text hc with rfl | hc
  · exact isPlain_of_not_mem hd (by decide)
  · exact isPlain_of_isWord hd hc

theorem passes_getD_map {β : Type} {division : Division} {f : β → List Char} (x : Option β)
    (h : ∀ b, division.Passes (f b)) : division.Passes ((x.map f).getD []) := by
  cases x with
  | none => exact fun _ _ => rfl
  | some b => exact h b

theorem passes_case {division : Division} (hd : division.IsCoarse)
    (hassignment : ∀ joint : Joint, division.Passes (joint.text '=')) (printed : PrintedCase) :
    division.Passes printed.text := by
  have hname : division.Passes printed.writtenName := by
    apply passes_of_isPlain
    intro c hc
    rcases PrintedCase.mem_writtenName hc with rfl | hc
    · exact isPlain_of_not_mem hd (by decide)
    · exact isPlain_of_isWord hd hc
  apply hname.append
  apply (passes_getD_map printed.values division.passes_values).append
  exact passes_getD_map printed.assignment fun assignment =>
    (hassignment assignment.joint).append (passes_signed hd assignment.signed)

end Division

end EnumExport
