import EnumExport.Proofs.Literals.Grammar

namespace EnumExport

structure SignedLiteral where
  negative : Bool
  literal : IntegerLiteral

namespace SignedLiteral

def text (signed : SignedLiteral) : List Char :=
  if signed.negative then '-' :: signed.literal.text else signed.literal.text

def value (signed : SignedLiteral) : Int :=
  if signed.negative then -(signed.literal.value : Int) else signed.literal.value

def expression (signed : SignedLiteral) : Expression :=
  if signed.negative then .negation (.integer signed.literal.value)
  else .integer signed.literal.value

theorem eval?_expression (signed : SignedLiteral) :
    signed.expression.eval? = some signed.value := by
  unfold expression value
  split <;> rfl

end SignedLiteral

namespace IntegerLiteral

theorem exists_text_cons (literal : IntegerLiteral) :
    ∃ c rest, literal.text = c :: rest ∧ isBlank c = false ∧
      Expression.operatorChars.contains c = false := by
  have hdigit (radix : Radix) (c : Char) (h : Numeral.isDigit radix.base c = true) :
      isBlank c = false ∧ Expression.operatorChars.contains c = false := by
    have hc := Numeral.toNat_lt_of_isDigit h
    revert h
    apply forall_ascii (p := fun c => Numeral.isDigit radix.base c = true →
      isBlank c = false ∧ Expression.operatorChars.contains c = false) _ hc
    cases radix <;> decide
  cases hr : literal.radix with
  | decimal =>
    refine ⟨literal.first, literal.more, by simp [text, hr, Radix.marker], ?_⟩
    exact hdigit _ _ literal.isDigit_first
  | _ => exact ⟨'0', _, by simp [text, hr, Radix.marker]; rfl, by decide, by decide⟩

theorem isOperand_text (literal : IntegerLiteral) : Expression.isOperand literal.text = true := by
  obtain ⟨c, rest, ht, hblank, hop⟩ := literal.exists_text_cons
  rw [ht, Expression.isOperand, hblank, hop]
  rfl

theorem head_ne_minus {literal : IntegerLiteral} {c : Char} {rest : List Char}
    (ht : literal.text = c :: rest) : c ≠ '-' := by
  obtain ⟨d, tail, hd, -, hop⟩ := literal.exists_text_cons
  obtain ⟨rfl, -⟩ := List.cons.inj (ht.symm.trans hd)
  rintro rfl
  exact absurd hop (by decide)

theorem readUnsigned_text {literal : IntegerLiteral} (h : ¬ literal.IsOverlong) :
    Expression.readUnsigned literal.text = .ok (.integer literal.value) := by
  rw [Expression.readUnsigned, if_pos literal.isLiteral_text, read_text h]
  rfl

end IntegerLiteral

namespace Expression

theorem read_eq (text : List Char) :
    read text =
      match trim text with
      | '-' :: operand =>
        if isOperand operand then (readUnsigned operand).map negation
        else .ok (unsupported ('-' :: operand))
      | unsigned => readUnsigned unsigned := rfl

theorem read_of_trim {text : List Char} {signed : SignedLiteral} (ht : trim text = signed.text)
    (h : ¬ signed.literal.IsOverlong) : read text = .ok signed.expression := by
  rw [read_eq, ht, SignedLiteral.text, SignedLiteral.expression]
  by_cases hneg : signed.negative = true
  · simp only [hneg, if_true]
    rw [signed.literal.isOperand_text, if_pos rfl, IntegerLiteral.readUnsigned_text h]
    rfl
  · simp only [hneg, Bool.false_eq_true, if_false]
    split
    · rename_i operand heq
      exact absurd rfl (IntegerLiteral.head_ne_minus heq)
    · exact IntegerLiteral.readUnsigned_text h

theorem readUnsigned_eq_error_iff {text : List Char} {error : NumeralError} :
    readUnsigned text = .error error ↔
      ∃ literal : IntegerLiteral, literal.text = text ∧ literal.IsOverlong ∧
        error = .tooLong literal.digits.length := by
  constructor
  · intro h
    unfold readUnsigned at h
    split at h
    · rename_i hl
      obtain ⟨literal, rfl⟩ := IntegerLiteral.isLiteral_iff.mp hl
      by_cases hlong : literal.IsOverlong
      · rw [IntegerLiteral.read_text_of_overlong hlong] at h
        simp only [Except.map, Except.error.injEq] at h
        exact ⟨literal, rfl, hlong, h.symm⟩
      · rw [IntegerLiteral.read_text hlong] at h
        simp [Except.map] at h
    · simp at h
  · rintro ⟨literal, rfl, hlong, rfl⟩
    rw [readUnsigned, if_pos literal.isLiteral_text, IntegerLiteral.read_text_of_overlong hlong]
    rfl

theorem read_eq_error_iff {text : List Char} {error : NumeralError} :
    read text = .error error ↔
      ∃ signed : SignedLiteral, trim text = signed.text ∧ signed.literal.IsOverlong ∧
        error = .tooLong signed.literal.digits.length := by
  rw [read_eq]
  split
  · rename_i operand ht
    constructor
    · intro h
      split at h
      · cases hr : readUnsigned operand with
        | ok value => simp [hr, Except.map] at h
        | error e =>
          simp only [hr, Except.map, Except.error.injEq] at h
          subst h
          obtain ⟨literal, rfl, hlong, rfl⟩ := readUnsigned_eq_error_iff.mp hr
          exact ⟨⟨true, literal⟩, by simpa [SignedLiteral.text] using ht, hlong, rfl⟩
      · simp at h
    · rintro ⟨⟨negative, literal⟩, hsigned, hlong, rfl⟩
      cases negative with
      | true =>
        obtain rfl : operand = literal.text := by simpa [SignedLiteral.text, ht] using hsigned
        rw [if_pos literal.isOperand_text, readUnsigned_eq_error_iff.mpr ⟨literal, rfl, hlong, rfl⟩]
        rfl
      | false =>
        have htext : literal.text = '-' :: operand := by
          simpa [SignedLiteral.text, ht, eq_comm] using hsigned
        exact absurd rfl (IntegerLiteral.head_ne_minus htext)
  · rename_i hminus
    rw [readUnsigned_eq_error_iff]
    constructor
    · rintro ⟨literal, ht, hlong, rfl⟩
      exact ⟨⟨false, literal⟩, ht.symm, hlong, rfl⟩
    · rintro ⟨⟨negative, literal⟩, hsigned, hlong, rfl⟩
      cases negative with
      | true => exact absurd hsigned (hminus literal.text)
      | false => exact ⟨literal, hsigned.symm, hlong, rfl⟩

end Expression

end EnumExport
