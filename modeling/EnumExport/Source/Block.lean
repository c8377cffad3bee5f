import EnumExport.Source.Glyph

namespace EnumExport

variable {α : Type}

/-- The inside of a block whose opening brace has been passed, and what follows its closing brace,
when `depth` blocks are open inside it. -/
def blockInside? : Nat → List (Glyph α) → Option (List (Glyph α) × List (Glyph α))
  | _, [] => none
  | depth, g :: rest =>
    if g.shown = '{' then
      (blockInside? (depth + 1) rest).map fun (inside, after) => (g :: inside, after)
    else if g.shown = '}' then
      match depth with
      | 0 => some ([], rest)
      | depth + 1 => (blockInside? depth rest).map fun (inside, after) => (g :: inside, after)
    else (blockInside? depth rest).map fun (inside, after) => (g :: inside, after)

/-- The glyphs of a block's inside with everything in nested blocks shown as spaces. Line ends stay
visible, because they also end what is before a nested block. -/
def flattenAt : Nat → List (Glyph α) → List (Glyph α)
  | _, [] => []
  | depth, g :: rest =>
    if g.shown = '{' then { g with shown := ' ' } :: flattenAt (depth + 1) rest
    else if g.shown = '}' then { g with shown := ' ' } :: flattenAt (depth - 1) rest
    else if 0 < depth ∧ g.shown ≠ '\n' then { g with shown := ' ' } :: flattenAt depth rest
    else g :: flattenAt depth rest

def flatten (inside : List (Glyph α)) : List (Glyph α) := flattenAt 0 inside

@[simp] theorem map_source_flattenAt (depth : Nat) (gs : List (Glyph α)) :
    (flattenAt depth gs).map Glyph.source = gs.map Glyph.source := by
  induction gs generalizing depth with
  | nil => rfl
  | cons g gs ih =>
    simp only [flattenAt]
    split
    · simp [ih]
    · split
      · simp [ih]
      · split <;> simp [ih]

theorem blockInside?_append {depth : Nat} {gs inside after : List (Glyph α)}
    (h : blockInside? depth gs = some (inside, after)) :
    ∃ brace, brace.shown = '}' ∧ gs = inside ++ brace :: after := by
  induction gs generalizing depth inside with
  | nil => simp [blockInside?] at h
  | cons g gs ih =>
    have step {d : Nat}
        (h : (blockInside? d gs).map (fun (i, a) => (g :: i, a)) = some (inside, after)) :
        ∃ brace, brace.shown = '}' ∧ g :: gs = inside ++ brace :: after := by
      obtain ⟨⟨i, a⟩, hi, he⟩ := Option.map_eq_some_iff.mp h
      simp only [Prod.mk.injEq] at he
      obtain ⟨rfl, rfl⟩ := he
      obtain ⟨brace, hb, rfl⟩ := ih hi
      exact ⟨brace, hb, rfl⟩
    simp only [blockInside?] at h
    split at h
    · exact step h
    · split at h
      · rename_i hc
        split at h
        · simp only [Option.some.injEq, Prod.mk.injEq] at h
          obtain ⟨rfl, rfl⟩ := h
          exact ⟨g, hc, rfl⟩
        · exact step h
      · exact step h

end EnumExport
