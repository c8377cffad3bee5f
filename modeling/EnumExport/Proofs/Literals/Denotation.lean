import EnumExport.Proofs.Lists
import EnumExport.Proofs.Literals.Expressions

namespace EnumExport

namespace Expression

def IsLiteralText (text : List Char) : Prop := ∃ literal : IntegerLiteral, text = literal.text

def IsNegatable (text : List Char) : Prop :=
  ∃ first rest, text = first :: rest ∧ isBlank first = false ∧ first ∉ operatorChars

/-- What a text without blanks around it stands for. -/
inductive Denotes : List Char → Expression → Prop
  | literal {literal : IntegerLiteral} : ¬ literal.IsOverlong →
      Denotes literal.text (integer literal.value)
  | negated {literal : IntegerLiteral} : ¬ literal.IsOverlong →
      Denotes ('-' :: literal.text) (negation (integer literal.value))
  | negatedText {operand : List Char} : ¬ IsLiteralText operand → IsNegatable operand →
      Denotes ('-' :: operand) (negation (unsupported operand))
  | text {text : List Char} : ¬ IsLiteralText text →
      (∀ operand, text = '-' :: operand → ¬ IsNegatable operand) →
      Denotes text (unsupported text)

section

variable {text operand : List Char} {value : Int}

theorem denotes_integer_iff :
    Denotes text (integer value) ↔
      ∃ literal : IntegerLiteral, ¬ literal.IsOverlong ∧ text = literal.text ∧
        value = literal.value := by
  constructor
  · intro h
    cases h with
    | @literal literal hlong => exact ⟨literal, hlong, rfl, rfl⟩
  · rintro ⟨literal, hlong, rfl, rfl⟩
    exact .literal hlong

theorem denotes_negation_integer_iff :
    Denotes text (negation (integer value)) ↔
      ∃ literal : IntegerLiteral, ¬ literal.IsOverlong ∧ text = '-' :: literal.text ∧
        value = literal.value := by
  constructor
  · intro h
    cases h with
    | @negated literal hlong => exact ⟨literal, hlong, rfl, rfl⟩
  · rintro ⟨literal, hlong, rfl, rfl⟩
    exact .negated hlong

theorem denotes_negation_unsupported_iff :
    Denotes text (negation (unsupported operand)) ↔
      text = '-' :: operand ∧ ¬ IsLiteralText operand ∧ IsNegatable operand := by
  constructor
  · intro h
    cases h with
    | negatedText hliteral htouches => exact ⟨rfl, hliteral, htouches⟩
  · rintro ⟨rfl, hliteral, htouches⟩
    exact .negatedText hliteral htouches

theorem denotes_unsupported_iff {source : List Char} :
    Denotes text (unsupported source) ↔
      source = text ∧ ¬ IsLiteralText source ∧
        ∀ operand, source = '-' :: operand → ¬ IsNegatable operand := by
  constructor
  · intro h
    cases h with
    | text hliteral htouches => exact ⟨rfl, hliteral, htouches⟩
  · rintro ⟨rfl, hliteral, htouches⟩
    exact .text hliteral htouches

theorem not_denotes_negation_negation (operand : Expression) :
    ¬ Denotes text (negation (negation operand)) := by
  intro h
  cases h

end

theorem isOperand_iff {text : List Char} : isOperand text = true ↔ IsNegatable text := by
  cases text with
  | nil => simp [isOperand, IsNegatable]
  | cons c rest => simp [isOperand, IsNegatable]

theorem isLiteral_iff_isLiteralText {text : List Char} :
    Literal.isLiteral text = true ↔ IsLiteralText text := by
  rw [IntegerLiteral.isLiteral_iff]
  exact exists_congr fun _ => eq_comm

theorem not_isLiteralText_minus (operand : List Char) : ¬ IsLiteralText ('-' :: operand) := by
  rintro ⟨literal, htext⟩
  exact IntegerLiteral.head_ne_minus htext.symm rfl

theorem readUnsigned_of_not_isLiteralText {text : List Char} (h : ¬ IsLiteralText text) :
    readUnsigned text = .ok (unsupported text) := by
  rw [readUnsigned, if_neg (mt isLiteral_iff_isLiteralText.mp h)]

theorem readUnsigned_eq_ok_iff {text : List Char} {expression : Expression} :
    readUnsigned text = .ok expression ↔
      (∃ literal : IntegerLiteral, ¬ literal.IsOverlong ∧ text = literal.text ∧
        expression = integer literal.value) ∨
      ¬ IsLiteralText text ∧ expression = unsupported text := by
  constructor
  · intro h
    by_cases hliteral : IsLiteralText text
    · obtain ⟨literal, rfl⟩ := hliteral
      by_cases hlong : literal.IsOverlong
      · rw [readUnsigned_eq_error_iff.mpr ⟨literal, rfl, hlong, rfl⟩] at h
        cases h
      · rw [IntegerLiteral.readUnsigned_text hlong] at h
        exact Or.inl ⟨literal, hlong, rfl, (Except.ok.inj h).symm⟩
    · rw [readUnsigned_of_not_isLiteralText hliteral] at h
      exact Or.inr ⟨hliteral, (Except.ok.inj h).symm⟩
  · rintro (⟨literal, hlong, rfl, rfl⟩ | ⟨hliteral, rfl⟩)
    · exact IntegerLiteral.readUnsigned_text hlong
    · exact readUnsigned_of_not_isLiteralText hliteral

theorem read_of_minus {text operand : List Char} (h : trim text = '-' :: operand) :
    read text =
      if isOperand operand then (readUnsigned operand).map negation
      else .ok (unsupported ('-' :: operand)) := by
  rw [read_eq, h]
  rfl

theorem read_of_ne_minus {text : List Char} (h : ∀ operand, trim text ≠ '-' :: operand) :
    read text = readUnsigned (trim text) := by
  rw [read_eq]
  split
  · rename_i operand hminus
    exact absurd hminus (h operand)
  · rfl

theorem denotes_of_read {text : List Char} {expression : Expression}
    (h : read text = .ok expression) : Denotes (trim text) expression := by
  by_cases hminus : ∃ operand, trim text = '-' :: operand
  · obtain ⟨operand, hoperand⟩ := hminus
    rw [read_of_minus hoperand] at h
    rw [hoperand]
    split at h
    · rename_i htouches
      obtain ⟨inner, hinner, rfl⟩ := exists_of_map_ok h
      rcases readUnsigned_eq_ok_iff.mp hinner with ⟨literal, hlong, rfl, rfl⟩ | ⟨hliteral, rfl⟩
      · exact .negated hlong
      · exact .negatedText hliteral (isOperand_iff.mp htouches)
    · rename_i htouches
      obtain rfl := Except.ok.inj h
      apply Denotes.text (not_isLiteralText_minus operand)
      intro other hother
      obtain rfl : operand = other := (List.cons.inj hother).2
      exact mt isOperand_iff.mpr htouches
  · have hplain := not_exists.mp hminus
    rw [read_of_ne_minus hplain] at h
    rcases readUnsigned_eq_ok_iff.mp h with ⟨literal, hlong, htext, rfl⟩ | ⟨hliteral, rfl⟩
    · rw [htext]
      exact .literal hlong
    · exact .text hliteral fun operand hoperand => absurd hoperand (hplain operand)

theorem read_of_denotes {text : List Char} {expression : Expression}
    (h : Denotes (trim text) expression) : read text = .ok expression := by
  generalize htrim : trim text = trimmed at h
  cases h with
  | @literal literal hlong => exact @read_of_trim _ ⟨false, literal⟩ htrim hlong
  | @negated literal hlong => exact @read_of_trim _ ⟨true, literal⟩ htrim hlong
  | @negatedText operand hliteral htouches =>
    rw [read_of_minus htrim, if_pos (isOperand_iff.mpr htouches),
      readUnsigned_of_not_isLiteralText hliteral]
    rfl
  | text hliteral htouches =>
    by_cases hminus : ∃ operand, trimmed = '-' :: operand
    · obtain ⟨operand, rfl⟩ := hminus
      rw [read_of_minus htrim, if_neg (mt isOperand_iff.mp (htouches operand rfl))]
    · subst htrim
      rw [read_of_ne_minus (not_exists.mp hminus), readUnsigned_of_not_isLiteralText hliteral]

theorem read_eq_ok_iff {text : List Char} {expression : Expression} :
    read text = .ok expression ↔ Denotes (trim text) expression :=
  ⟨denotes_of_read, read_of_denotes⟩

theorem exists_read_error_iff {text : List Char} :
    (∃ error, read text = .error error) ↔
      ∃ literal : IntegerLiteral, literal.IsOverlong ∧
        (trim text = literal.text ∨ trim text = '-' :: literal.text) := by
  simp only [read_eq_error_iff]
  constructor
  · rintro ⟨error, ⟨negative, literal⟩, htext, hlong, -⟩
    refine ⟨literal, hlong, ?_⟩
    cases negative with
    | false => exact Or.inl htext
    | true => exact Or.inr htext
  · rintro ⟨literal, hlong, htext | htext⟩
    · exact ⟨_, ⟨false, literal⟩, htext, hlong, rfl⟩
    · exact ⟨_, ⟨true, literal⟩, htext, hlong, rfl⟩

/-- How every raw value is read: as the literal that it is, as the negation of a literal or of other
text that a minus sign touches, or else as it stands. Only a decimal literal that is too long cannot
be read. -/
theorem read_as_denoted (text : List Char) :
    (∀ value, read text = .ok (integer value) ↔
      ∃ literal : IntegerLiteral, ¬ literal.IsOverlong ∧ trim text = literal.text ∧
        value = literal.value) ∧
    (∀ value, read text = .ok (negation (integer value)) ↔
      ∃ literal : IntegerLiteral, ¬ literal.IsOverlong ∧ trim text = '-' :: literal.text ∧
        value = literal.value) ∧
    (∀ operand, read text = .ok (negation (unsupported operand)) ↔
      trim text = '-' :: operand ∧ ¬ IsLiteralText operand ∧ IsNegatable operand) ∧
    (∀ source, read text = .ok (unsupported source) ↔
      source = trim text ∧ ¬ IsLiteralText source ∧
        ∀ operand, source = '-' :: operand → ¬ IsNegatable operand) ∧
    (∀ operand, read text ≠ .ok (negation (negation operand))) ∧
    ((∃ error, read text = .error error) ↔
      ∃ literal : IntegerLiteral, literal.IsOverlong ∧
        (trim text = literal.text ∨ trim text = '-' :: literal.text)) := by
  refine ⟨fun _ => read_eq_ok_iff.trans denotes_integer_iff,
    fun _ => read_eq_ok_iff.trans denotes_negation_integer_iff,
    fun _ => read_eq_ok_iff.trans denotes_negation_unsupported_iff,
    fun _ => read_eq_ok_iff.trans denotes_unsupported_iff, fun operand => ?_,
    exists_read_error_iff⟩
  exact mt read_eq_ok_iff.mp (not_denotes_negation_negation operand)

end Expression

end EnumExport
