import EnumExport.Proofs.Printing.Frames
import EnumExport.Proofs.Printing.Parts

namespace EnumExport

inductive IsNested : List Char → Prop
  | nil : IsNested []
  | plain {c : Char} {text : List Char} : c ≠ '(' → c ≠ ')' → IsNested text → IsNested (c :: text)
  | group {inner text : List Char} : IsNested inner → IsNested text →
      IsNested ('(' :: inner ++ ')' :: text)

namespace IsNested

variable {text : List Char}

theorem of_forall (h : ∀ c ∈ text, c ≠ '(' ∧ c ≠ ')') : IsNested text := by
  induction text with
  | nil => exact .nil
  | cons c text ih =>
    obtain ⟨hc, htext⟩ := List.forall_mem_cons.mp h
    exact .plain hc.1 hc.2 (ih htext)

theorem count_eq (h : IsNested text) : text.count '(' = text.count ')' := by
  induction h with
  | nil => rfl
  | plain hopen hclose _ ih => simpa [List.count_cons, hopen, hclose] using ih
  | group _ _ hinner htext =>
    simp [List.count_append, hinner, htext]
    omega

theorem not_mem_close (h : IsNested text) (hopen : '(' ∉ text) : ')' ∉ text := by
  rw [← List.count_eq_zero] at hopen ⊢
  rw [← h.count_eq, hopen]

theorem exists_first_close (h : IsNested text) (hopen : '(' ∈ text) :
    ∃ front back, text = front ++ ')' :: back ∧ ')' ∉ front ∧ back.count '(' ≤ back.count ')' := by
  induction h with
  | nil => simp at hopen
  | @plain c text hc hclose _ ih =>
    have hmem : '(' ∈ text := (List.mem_cons.mp hopen).resolve_left (Ne.symm hc)
    obtain ⟨front, back, rfl, hfront, hback⟩ := ih hmem
    exact ⟨c :: front, back, rfl, by simp [hfront, Ne.symm hclose], hback⟩
  | @group inner text hinner htext ih _ =>
    by_cases hmem : '(' ∈ inner
    · obtain ⟨front, back, rfl, hfront, hback⟩ := ih hmem
      refine ⟨'(' :: front, back ++ ')' :: text, by simp, by simp [hfront], ?_⟩
      simp only [List.count_append, List.count_cons, htext.count_eq]
      simp
      omega
    · exact ⟨'(' :: inner, text, rfl, by simp [hinner.not_mem_close hmem], htext.count_eq.le⟩

end IsNested

structure ArgumentList where
  inner : List Char
  isNested : IsNested inner
  notStop : HoldsNoStop inner
  oneLine : '\n' ∉ inner

namespace ArgumentList

def text (arguments : ArgumentList) : List Char := '(' :: arguments.inner ++ [')']

theorem holdsNoStop_text (arguments : ArgumentList) : HoldsNoStop arguments.text :=
  holdsNoStop_cons (by decide) (holdsNoStop_append arguments.notStop (by decide))

def IsDeep (arguments : ArgumentList) : Prop := '(' ∈ arguments.inner

instance (arguments : ArgumentList) : Decidable arguments.IsDeep :=
  inferInstanceAs (Decidable (_ ∈ _))

end ArgumentList

structure Attribute where
  name : Identifier
  arguments : Option ArgumentList

namespace Attribute

variable (attached : Attribute)

def argumentText : List Char := (attached.arguments.map ArgumentList.text).getD []

def text : List Char := '@' :: (attached.name.text ++ attached.argumentText)

def IsFlat : Prop := ∀ arguments ∈ attached.arguments, ¬ arguments.IsDeep

instance : Decidable attached.IsFlat :=
  inferInstanceAs (Decidable (∀ arguments ∈ attached.arguments, ¬ arguments.IsDeep))

end Attribute

section Groups

open Glyph

variable {rest : List (Glyph Char)}

theorem afterGroup?_solid {front : List Char} (hfront : ')' ∉ front) (rest : List (Glyph Char)) :
    afterGroup? (solid ('(' :: front ++ [')']) ++ rest) = some rest := by
  apply (takesOff_afterGroup? _ rest).mpr
  refine ⟨solid ('(' :: front ++ [')']), rfl, [], front, List.forall_mem_nil _, hfront, ?_⟩
  rw [text_solid, List.nil_append, List.cons_append]

def StartsParted (gs : List (Glyph Char)) : Prop :=
  ∃ g tail, gs = ⟨' ', ' '⟩ :: g :: tail ∧ g.isBlank = false ∧ g.shown ≠ '('

namespace Attribute

variable {attached : Attribute}

theorem afterOptionalGroup_of_isFlat (h : attached.IsFlat) (hrest : StartsParted rest) :
    afterOptionalGroup (solid attached.argumentText ++ rest) = rest := by
  rw [afterOptionalGroup, argumentText]
  cases harguments : attached.arguments with
  | none =>
    obtain ⟨g, tail, rfl, hblank, hparen⟩ := hrest
    have hskip : skipBlanks (⟨' ', ' '⟩ :: g :: tail) = g :: tail := by
      rw [skipBlanks, List.dropWhile_cons_of_pos (by decide),
        List.dropWhile_cons_of_neg (by simp [hblank])]
    rw [Option.map_none, Option.getD_none, solid_nil, List.nil_append,
      takesOff_afterGroup?.eq_none hskip hparen, Option.getD_none]
  | some arguments =>
    have hclose := arguments.isNested.not_mem_close (h arguments harguments)
    rw [Option.map_some, Option.getD_some, ArgumentList.text, afterGroup?_solid hclose,
      Option.getD_some]

theorem exists_of_not_isFlat (h : ¬ attached.IsFlat) :
    ∃ arguments ∈ attached.arguments, ∃ front back, arguments.inner = front ++ ')' :: back ∧
      back.count '(' ≤ back.count ')' ∧
      ∀ rest, afterOptionalGroup (solid attached.argumentText ++ rest) =
        solid (back ++ [')']) ++ rest := by
  simp only [IsFlat, not_forall, not_not] at h
  obtain ⟨arguments, harguments, hdeep⟩ := h
  obtain ⟨front, back, hinner, hfront, hback⟩ := arguments.isNested.exists_first_close hdeep
  refine ⟨arguments, harguments, front, back, hinner, hback, fun rest => ?_⟩
  have htext : solid attached.argumentText ++ rest =
      solid ('(' :: front ++ [')']) ++ (solid (back ++ [')']) ++ rest) := by
    rw [argumentText, harguments, Option.map_some, Option.getD_some, ArgumentList.text, hinner]
    simp
  rw [htext, afterOptionalGroup, afterGroup?_solid hfront, Option.getD_some]

end Attribute

end Groups

def argumentLists (attributes : List Attribute) : List ArgumentList :=
  attributes.filterMap Attribute.arguments

structure AttributedEnum where
  marker : Attribute
  further : List Attribute
  name : Identifier
  ofCase : List Attribute
  caseName : Identifier
  others : ∀ attached ∈ further ++ ofCase, attached.name.text ≠ marker.name.text

def caseText (attributes : List Attribute) (caseName : Identifier) : List Char :=
  attributes.flatMap (fun attached => attached.text ++ [' ']) ++
    (caseWord ++ ' ' :: (caseName.text ++ [' ']))

def headerText (attributes : List Attribute) (rest : List Char) : List Char :=
  attributes.flatMap (fun attached => ' ' :: attached.text) ++ rest

namespace AttributedEnum

variable (printed : AttributedEnum)

def body : List Char := ' ' :: caseText printed.ofCase printed.caseName

def afterName : List Char := " \x7b".toList ++ (printed.body ++ ['\x7d'])

def afterMarker : List Char :=
  printed.marker.argumentText ++
    headerText printed.further (" enum ".toList ++ (printed.name.text ++ printed.afterName))

def text : List Char := '@' :: (printed.marker.name.text ++ printed.afterMarker)

def declaration (file : Option (List Char)) : Declaration :=
  ⟨.enum, printed.name.text, [⟨printed.caseName.text, none⟩], file, some 1⟩

end AttributedEnum

def HasOpenSemicolon (text : List Char) : Prop :=
  ∃ front back, text = front ++ ';' :: back ∧ groupLevel 0 front = 0

theorem hasOpenSemicolon_iff {division : Division} {text : List Char}
    (h : ∀ c ∈ text, division.isSeparator c = (c == ';')) :
    HasOpenSemicolon text ↔ division.SeparatesFrom 0 text := by
  constructor
  · rintro ⟨front, back, rfl, hlevel⟩
    exact ⟨front, ';', back, rfl, h ';' (by simp), hlevel⟩
  · rintro ⟨front, c, back, rfl, hc, hlevel⟩
    rw [h c (by simp), beq_iff_eq] at hc
    exact ⟨front, back, by rw [hc], hlevel⟩

instance (text : List Char) : Decidable (HasOpenSemicolon text) :=
  decidable_of_iff ((⟨(· == ';'), false⟩ : Division).SeparatesFrom 0 text)
    (hasOpenSemicolon_iff fun _ _ => rfl).symm

namespace AttributedEnum

variable (printed : AttributedEnum)

/-- Whether every argument list ends where its first parenthesis is closed, and no semicolon in a
list ends the statement. -/
structure IsFlat : Prop where
  marker : printed.marker.IsFlat
  further : ∀ attached ∈ printed.further, attached.IsFlat
  ofCase : ∀ attached ∈ printed.ofCase, attached.IsFlat
  oneStatement : ¬ HasOpenSemicolon printed.body

structure NamesApart : Prop where
  name : ∀ arguments ∈ argumentLists (printed.marker :: printed.further),
    ¬ printed.name.text <:+: arguments.text
  caseName : ∀ arguments ∈ argumentLists printed.ofCase,
    ¬ printed.caseName.text <:+: arguments.text

end AttributedEnum

end EnumExport
