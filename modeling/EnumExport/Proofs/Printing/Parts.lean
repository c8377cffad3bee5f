import EnumExport.Proofs.Printing.Division
import EnumExport.Proofs.Reading.Clauses

namespace EnumExport

open Glyph

variable {α : Type}

def levelBehind (level : Nat) (c : Char) : Nat :=
  if opensGroup c then level + 1 else if closesGroup c then level - 1 else level

def groupLevel (level : Nat) (text : List Char) : Nat := text.foldl levelBehind level

namespace Division

variable {division : Division} {depth : Nat} {before gs part : List (Glyph α)}

theorem exists_of_mem_partsFrom (h : part ∈ division.partsFrom depth before gs) :
    ∃ front back, before.reverse ++ gs = front ++ (part ++ back) ∧
      (∀ g ∈ front.getLast?, division.isSeparator g.shown = true) ∧
      ∀ g ∈ back.head?, division.isSeparator g.shown = true := by
  induction gs generalizing depth before with
  | nil =>
    obtain rfl := List.mem_singleton.mp h
    exact ⟨[], [], by simp, by simp, by simp⟩
  | cons g gs ih =>
    have hmore {depth : Nat} (h : part ∈ division.partsFrom depth (g :: before) gs) :
        ∃ front back, before.reverse ++ g :: gs = front ++ (part ++ back) ∧
          (∀ g ∈ front.getLast?, division.isSeparator g.shown = true) ∧
          ∀ g ∈ back.head?, division.isSeparator g.shown = true := by simpa using ih h
    rw [partsFrom] at h
    split at h
    · exact hmore h
    · split at h
      · exact hmore h
      · split at h
        · rename_i hseparates
          have hg : division.isSeparator g.shown = true :=
            (Bool.and_eq_true_iff.mp hseparates.2).1
          rcases List.mem_cons.mp h with rfl | h
          · exact ⟨[], g :: gs, by simp, by simp, by simpa using hg⟩
          · obtain ⟨front, back, hsplit, hfront, hback⟩ := ih h
            refine ⟨before.reverse ++ g :: front, back, ?_, ?_, hback⟩
            · rw [List.reverse_nil, List.nil_append] at hsplit
              rw [hsplit]
              simp
            · cases front with
              | nil => simpa using hg
              | cons d front => simpa using hfront
        · exact hmore h

theorem exists_of_mem_parts (h : part ∈ division.parts gs) :
    ∃ front back, gs = front ++ (part ++ back) ∧
      (∀ g ∈ front.getLast?, division.isSeparator g.shown = true) ∧
      ∀ g ∈ back.head?, division.isSeparator g.shown = true :=
  exists_of_mem_partsFrom h

def SeparatesFrom (division : Division) (depth : Nat) (text : List Char) : Prop :=
  ∃ front c back, text = front ++ c :: back ∧ division.isSeparator c = true ∧
    groupLevel depth front = 0

theorem separatesFrom_cons_iff {c : Char} {text : List Char} :
    division.SeparatesFrom depth (c :: text) ↔
      (division.isSeparator c = true ∧ depth = 0) ∨
        division.SeparatesFrom (levelBehind depth c) text := by
  constructor
  · rintro ⟨front, d, back, hsplit, hd, hlevel⟩
    cases front with
    | nil =>
      obtain ⟨rfl, rfl⟩ := List.cons.inj hsplit
      exact .inl ⟨hd, hlevel⟩
    | cons b front =>
      obtain ⟨rfl, rfl⟩ := List.cons.inj hsplit
      exact .inr ⟨front, d, back, rfl, hd, hlevel⟩
  · rintro (⟨hc, hdepth⟩ | ⟨front, d, back, rfl, hd, hlevel⟩)
    · exact ⟨[], c, text, rfl, hc, hdepth⟩
    · exact ⟨c :: front, d, back, rfl, hd, hlevel⟩

instance decidableSeparatesFrom (division : Division) :
    (depth : Nat) → (text : List Char) → Decidable (division.SeparatesFrom depth text)
  | _, [] => isFalse fun ⟨_, _, _, hsplit, _⟩ => by simp at hsplit
  | depth, c :: text =>
    have := decidableSeparatesFrom division (levelBehind depth c) text
    decidable_of_iff _ separatesFrom_cons_iff.symm

theorem separatesAt_eq {g : Glyph α} (hline : division.joinsLines = true → g.shown ≠ '\n') :
    division.separatesAt before g gs = division.isSeparator g.shown := by
  cases hjoins : division.joinsLines with
  | false => simp [separatesAt, hjoins]
  | true => simp [separatesAt, hline hjoins]

def SparesGroups (division : Division) : Prop :=
  ∀ c ∈ ['(', '[', ')', ']'], division.isSeparator c = false

theorem IsCoarse.sparesGroups (h : division.IsCoarse) : division.SparesGroups := by
  intro c hc
  have hnone : ∀ d ∈ [';', '\n', ','], d ∉ ['(', '[', ')', ']'] := by decide
  rw [Bool.eq_false_iff]
  intro hseparator
  exact hnone c (h c hseparator) hc

theorem SparesGroups.not_isSeparator (h : division.SparesGroups) {c : Char}
    (hc : opensGroup c = true ∨ closesGroup c = true) : division.isSeparator c = false := by
  apply h
  simpa [opensGroup, closesGroup, or_assoc] using hc

theorem partsFrom_eq_ite (h : division.SparesGroups) (g : Glyph α) :
    division.partsFrom depth before (g :: gs) =
      if depth = 0 ∧ division.separatesAt before g gs = true then
        before.reverse :: division.partsFrom 0 [] gs
      else division.partsFrom (levelBehind depth g.shown) (g :: before) gs := by
  rw [partsFrom, levelBehind]
  by_cases hopens : opensGroup g.shown = true
  · simp [hopens, separatesAt, h.not_isSeparator (.inl hopens)]
  · by_cases hcloses : closesGroup g.shown = true
    · simp [hopens, hcloses, separatesAt, h.not_isSeparator (.inr hcloses)]
    · simp [hopens, hcloses]

theorem partsFrom_cons (hdivision : division.IsCoarse) {g : Glyph α}
    (hline : division.joinsLines = true → g.shown ≠ '\n') :
    division.partsFrom depth before (g :: gs) =
      if division.isSeparator g.shown = true ∧ depth = 0 then
        before.reverse :: division.partsFrom 0 [] gs
      else division.partsFrom (levelBehind depth g.shown) (g :: before) gs := by
  rw [partsFrom_eq_ite hdivision.sparesGroups, separatesAt_eq hline]
  simp only [and_comm]

section Whole

variable (hdivision : division.IsCoarse)
  (hline : division.joinsLines = true → ∀ g ∈ gs, g.shown ≠ '\n')
include hdivision hline

theorem partsFrom_eq_singleton (h : ¬ division.SeparatesFrom depth (text gs)) :
    division.partsFrom depth before gs = [before.reverse ++ gs] := by
  induction gs generalizing depth before with
  | nil => simp [partsFrom]
  | cons g gs ih =>
    rw [text, List.map_cons, separatesFrom_cons_iff, not_or] at h
    rw [partsFrom_cons hdivision fun hjoins => hline hjoins g (List.mem_cons_self ..),
      if_neg h.1, ih (fun hjoins d hd => hline hjoins d (List.mem_cons_of_mem _ hd)) h.2]
    simp

theorem length_lt_of_mem_partsFrom (h : division.SeparatesFrom depth (text gs))
    (hpart : part ∈ division.partsFrom depth before gs) :
    part.length < before.length + gs.length := by
  induction gs generalizing depth before with
  | nil =>
    obtain ⟨front, c, back, hsplit, -⟩ := h
    simp [text] at hsplit
  | cons g gs ih =>
    rw [text, List.map_cons, separatesFrom_cons_iff] at h
    rw [partsFrom_cons hdivision fun hjoins => hline hjoins g (List.mem_cons_self ..)] at hpart
    split at hpart
    · rcases List.mem_cons.mp hpart with rfl | hpart
      · simp
      · have hle := (isInfix_of_mem_partsFrom hpart).length_le
        simp only [List.reverse_nil, List.nil_append] at hle
        simp only [List.length_cons]
        omega
    · rename_i hopen
      have hlt := ih (fun hjoins d hd => hline hjoins d (List.mem_cons_of_mem _ hd))
        (h.resolve_left hopen) hpart
      simp only [List.length_cons] at hlt ⊢
      omega

end Whole

end Division

end EnumExport
