import EnumExport.Proofs.Generation.Steps
import EnumExport.Proofs.Lists
import Mathlib.Data.List.Basic

namespace EnumExport

namespace Numeral

theorem isDigit_of_mem_digits {n : Nat} {c : Char} (h : c ∈ Nat.toDigits 10 n) :
    c.isDigit = true :=
  Nat.isDigit_of_mem_toDigits (by decide) (by decide) h

theorem toDigits_injective {n m : Nat} (h : Nat.toDigits 10 n = Nat.toDigits 10 m) : n = m := by
  have hread := congrArg (fun digits => Nat.ofDigitChars 10 digits 0) h
  simpa only [Nat.ofDigitChars_ten_toDigits] using hread

theorem mem_decimal {n : Int} {c : Char} (h : c ∈ decimal n) : c = '-' ∨ c.isDigit = true := by
  unfold decimal at h
  split at h
  · exact (List.mem_cons.mp h).imp_right isDigit_of_mem_digits
  · exact Or.inr (isDigit_of_mem_digits h)

theorem not_mem_decimal {n : Int} {c : Char} (hminus : c ≠ '-') (hdigit : c.isDigit = false) :
    c ∉ decimal n := by
  intro hc
  rcases mem_decimal hc with hc | hc
  · exact hminus hc
  · rw [hdigit] at hc
    exact absurd hc (by decide)

theorem toDigits_ne_minus_cons {n : Nat} {text : List Char} :
    Nat.toDigits 10 n ≠ '-' :: text := by
  intro h
  have hminus : '-'.isDigit = true := isDigit_of_mem_digits (h ▸ List.mem_cons_self ..)
  exact absurd hminus (by decide)

theorem decimal_injective {n m : Int} (h : decimal n = decimal m) : n = m := by
  unfold decimal at h
  split at h
  · rename_i hn
    split at h
    · rename_i hm
      have habs := toDigits_injective (List.cons.inj h).2
      omega
    · exact absurd h.symm toDigits_ne_minus_cons
  · rename_i hn
    split at h
    · exact absurd h toDigits_ne_minus_cons
    · rename_i hm
      have habs := toDigits_injective h
      omega

theorem lt_printLimit_of_length_le {n : Nat} (h : (natText n).length ≤ digitLimit) :
    n < printLimit := by
  have hpow : ∀ digits : Nat, n < 10 ^ digits → n < Nat.pow 10 digits := fun _ => id
  unfold printLimit
  exact hpow digitLimit ((Nat.length_toDigits_le_iff (by decide) (by decide)).mp h)

end Numeral

namespace ResolvedCase

def constant (c : ResolvedCase) : List Char × Int := (constantName c.name, c.value)

theorem entry_eq (c : ResolvedCase) :
    c.entry = (constantName c.name ++ [' ', '=']) ++ ' ' :: Numeral.decimal c.value := by
  simp [entry]

theorem constant_eq_of_entry_eq {c d : ResolvedCase} (h : c.entry = d.entry) :
    c.constant = d.constant := by
  have hblank (n : Int) : ' ' ∉ Numeral.decimal n :=
    Numeral.not_mem_decimal (by decide) (by decide)
  -- The name may hold anything, but no blank stands behind the last one in front of the value.
  rw [entry_eq, entry_eq] at h
  obtain ⟨hname, hvalue⟩ := append_cons_inj_of_not_mem_right (hblank _) (hblank _) h
  exact Prod.ext (List.append_cancel_right hname) (Numeral.decimal_injective hvalue)

end ResolvedCase

structure IsLine (text : List Char) : Prop where
  ne_nil : text ≠ []
  oneLine : '\n' ∉ text

theorem ResolvedCase.isLine_entry {c : ResolvedCase} (h : '\n' ∉ constantName c.name) :
    IsLine c.entry := by
  constructor
  · simp [entry]
  · simp only [entry_eq, List.mem_append, List.mem_cons, List.not_mem_nil, or_false, not_or]
    exact ⟨⟨h, by decide, by decide⟩, by decide,
      Numeral.not_mem_decimal (by decide) (by decide)⟩

def blockText (entries : List (List Char)) : List Char :=
  ",\n\t".toList.intercalate entries ++ "\n\x7d".toList

theorem blockText_single (entry : List Char) : blockText [entry] = entry ++ '\n' :: ['\x7d'] := by
  simp [blockText]

theorem blockText_cons_cons (first second : List Char) (rest : List (List Char)) :
    blockText (first :: second :: rest) =
      (first ++ [',']) ++ '\n' :: '\t' :: blockText (second :: rest) := by
  simp [blockText, List.intercalate_cons_cons]

theorem IsLine.blockText_ne {entry : List Char} (h : IsLine entry) (rest : List (List Char)) :
    blockText (entry :: rest) ≠ blockText [] := by
  obtain ⟨c, text, rfl⟩ := List.exists_cons_of_ne_nil h.ne_nil
  intro he
  have hhead := congrArg List.head? he
  have hnil : blockText [] = ['\n', '\x7d'] := rfl
  rw [hnil] at hhead
  cases rest with
  | nil =>
    rw [blockText_single] at hhead
    exact h.oneLine (Option.some.inj hhead ▸ List.mem_cons_self ..)
  | cons second rest =>
    rw [blockText_cons_cons] at hhead
    exact h.oneLine (Option.some.inj hhead ▸ List.mem_cons_self ..)

theorem blockText_injective {entries more : List (List Char)} (h : ∀ e ∈ entries, IsLine e)
    (hmore : ∀ e ∈ more, IsLine e) (he : blockText entries = blockText more) : entries = more := by
  induction entries generalizing more with
  | nil =>
    cases more with
    | nil => rfl
    | cons first rest =>
      exact absurd he.symm ((hmore first (List.mem_cons_self ..)).blockText_ne rest)
  | cons first rest ih =>
    obtain ⟨hfirst, hrest⟩ := List.forall_mem_cons.mp h
    cases more with
    | nil => exact absurd he (hfirst.blockText_ne rest)
    | cons other others =>
      obtain ⟨hother, hothers⟩ := List.forall_mem_cons.mp hmore
      have hcomma {e : List Char} (he : IsLine e) : '\n' ∉ e ++ [','] := by
        simpa using he.oneLine
      -- The first lines agree, and what stands behind them tells whether entries are left.
      cases rest with
      | nil =>
        rw [blockText_single] at he
        cases others with
        | nil =>
          rw [blockText_single] at he
          rw [(append_cons_inj_of_not_mem hfirst.oneLine hother.oneLine he).1]
        | cons second others =>
          rw [blockText_cons_cons] at he
          have hafter := (append_cons_inj_of_not_mem hfirst.oneLine (hcomma hother) he).2
          simp at hafter
      | cons next rest =>
        rw [blockText_cons_cons] at he
        cases others with
        | nil =>
          rw [blockText_single] at he
          have hafter := (append_cons_inj_of_not_mem (hcomma hfirst) hother.oneLine he).2
          simp at hafter
        | cons second others =>
          rw [blockText_cons_cons] at he
          obtain ⟨hline, hafter⟩ :=
            append_cons_inj_of_not_mem (hcomma hfirst) (hcomma hother) he
          rw [List.append_cancel_right hline, ih hrest hothers (List.cons.inj hafter).2]

structure IsReadable (name : List Char) (cases : List ResolvedCase) : Prop where
  name_oneLine : '\n' ∉ name
  constants_oneLine : ∀ c ∈ cases, '\n' ∉ constantName c.name
  values_short : ∀ c ∈ cases, (natText c.value.natAbs).length ≤ digitLimit

instance (name : List Char) (cases : List ResolvedCase) : Decidable (IsReadable name cases) :=
  decidable_of_iff ('\n' ∉ name ∧ (∀ c ∈ cases, '\n' ∉ constantName c.name) ∧
      ∀ c ∈ cases, (natText c.value.natAbs).length ≤ digitLimit)
    ⟨fun h => ⟨h.1, h.2.1, h.2.2⟩, fun h =>
      ⟨h.name_oneLine, h.constants_oneLine, h.values_short⟩⟩

def scriptOf (name : List Char) (cases : List ResolvedCase) : List Char :=
  "class_name ".toList ++ (name ++ '\n' :: ("\nenum \x7b\n\t".toList ++
    blockText (cases.map ResolvedCase.entry)))

theorem scriptText_eq_ok_iff {name text : List Char} {cases : List ResolvedCase} :
    scriptText name cases = .ok text ↔
      (∀ c ∈ cases, c.IsPrintable) ∧ text = scriptOf name cases := by
  by_cases hprintable : ∀ c ∈ cases, c.IsPrintable
  · have hscript : scriptText name cases = .ok (scriptOf name cases) := by
      rw [scriptText, ResolvedCase.mapM_scriptEntry hprintable]
      unfold scriptOf
      simp [blockText, Except.map]
    rw [hscript, Except.ok.injEq, eq_comm, and_iff_right hprintable]
  · have hfile := ({ } : ScriptPlace).scriptFile_of_not_isPrintable name
      (by simpa using hprintable)
    rw [ScriptPlace.scriptFile] at hfile
    cases hscript : scriptText name cases with
    | ok text => simp [hscript, Except.map] at hfile
    | error error => simp [hprintable]

namespace IsReadable

variable {name : List Char} {cases : List ResolvedCase}

theorem scriptText_eq (h : IsReadable name cases) :
    scriptText name cases = .ok (scriptOf name cases) := by
  have hprintable : ∀ c ∈ cases, c.IsPrintable := by
    intro c hc
    unfold ResolvedCase.IsPrintable
    exact Numeral.lt_printLimit_of_length_le (h.values_short c hc)
  exact scriptText_eq_ok_iff.mpr ⟨hprintable, rfl⟩

theorem isLine_entries (h : IsReadable name cases) :
    ∀ e ∈ cases.map ResolvedCase.entry, IsLine e := by
  intro e he
  obtain ⟨c, hc, rfl⟩ := List.mem_map.mp he
  exact ResolvedCase.isLine_entry (h.constants_oneLine c hc)

end IsReadable

theorem constants_eq_of_entries_eq {cases more : List ResolvedCase}
    (h : cases.map ResolvedCase.entry = more.map ResolvedCase.entry) :
    cases.map ResolvedCase.constant = more.map ResolvedCase.constant := by
  rw [← List.forall₂_eq_eq_eq, List.forall₂_map_left_iff, List.forall₂_map_right_iff] at h ⊢
  exact h.imp fun _ _ => ResolvedCase.constant_eq_of_entry_eq

theorem entries_eq_of_constants_eq {cases more : List ResolvedCase}
    (h : cases.map ResolvedCase.constant = more.map ResolvedCase.constant) :
    cases.map ResolvedCase.entry = more.map ResolvedCase.entry := by
  have hentry : ResolvedCase.entry = (fun constant : List Char × Int =>
      constant.1 ++ " = ".toList ++ Numeral.decimal constant.2) ∘ ResolvedCase.constant := rfl
  rw [hentry, ← List.map_map, h, List.map_map]

/-- Scripts of readable enums are equal only if they are of the same class and list the same
constants with the same values in the same order. -/
theorem scripts_read_back {name other : List Char} {cases more : List ResolvedCase}
    (h : IsReadable name cases) (hother : IsReadable other more) :
    ∃ text again, scriptText name cases = .ok text ∧ scriptText other more = .ok again ∧
      (text = again ↔ name = other ∧
        cases.map ResolvedCase.constant = more.map ResolvedCase.constant) := by
  refine ⟨_, _, h.scriptText_eq, hother.scriptText_eq, ?_⟩
  constructor
  · intro he
    obtain ⟨rfl, hblock⟩ := append_cons_inj_of_not_mem h.name_oneLine hother.name_oneLine
      (List.append_cancel_left he)
    have hentries := blockText_injective h.isLine_entries hother.isLine_entries
      (List.append_cancel_left hblock)
    exact ⟨rfl, constants_eq_of_entries_eq hentries⟩
  · rintro ⟨rfl, hconstants⟩
    unfold scriptOf
    rw [entries_eq_of_constants_eq hconstants]

theorem scripts_read_back_sample :
    let cases : List ResolvedCase := [⟨"a = 1,\tb".toList, -2⟩]
    let more : List ResolvedCase := [⟨"a".toList, 1⟩, ⟨"b".toList, -2⟩]
    IsReadable "N".toList cases ∧ IsReadable "N".toList more ∧
      ∃ text again, scriptText "N".toList cases = .ok text ∧
        scriptText "N".toList more = .ok again ∧ text ≠ again := by
  intro cases more
  have hcases : IsReadable "N".toList cases := by decide +kernel
  have hmore : IsReadable "N".toList more := by decide +kernel
  obtain ⟨text, again, htext, hagain, hsame⟩ := scripts_read_back hcases hmore
  refine ⟨hcases, hmore, text, again, htext, hagain, ?_⟩
  intro he
  exact absurd (congrArg List.length (hsame.mp he).2) (by decide)

end EnumExport
