import EnumExport.Proofs.Literals.Expressions

namespace EnumExport

def IsTrimmed (text : List Char) : Prop :=
  (∀ c ∈ text.head?, isBlank c = false) ∧ ∀ c ∈ text.getLast?, isBlank c = false

theorem trimStart_suffix (text : List Char) : trimStart text <:+ text := List.dropWhile_suffix _

theorem trimEnd_isPrefix (text : List Char) : trimEnd text <+: text := by
  have hrest := List.dropWhile_suffix (l := text.reverse) isBlank
  have hfront := List.reverse_prefix.mpr hrest
  rwa [List.reverse_reverse] at hfront

theorem trim_isInfix (text : List Char) : trim text <:+: text :=
  (trimEnd_isPrefix _).isInfix.trans (trimStart_suffix text).isInfix

theorem not_isBlank_of_head? {text : List Char} {c : Char}
    (h : c ∈ (text.dropWhile isBlank).head?) : isBlank c = false := by
  have hstop := List.head?_dropWhile_not isBlank text
  rw [Option.mem_def.mp h] at hstop
  simpa using hstop

theorem isTrimmed_trim (text : List Char) : IsTrimmed (trim text) := by
  constructor
  · intro c hc
    obtain ⟨back, hback⟩ := trimEnd_isPrefix (trimStart text)
    have hhead : c ∈ (trimStart text).head? := by
      rw [← hback]
      cases htrim : trimEnd (trimStart text) with
      | nil => simp [trim, htrim] at hc
      | cons d rest => simpa [trim, htrim] using hc
    exact not_isBlank_of_head? hhead
  · intro c hc
    rw [trim, trimEnd, List.getLast?_reverse] at hc
    exact not_isBlank_of_head? hc

def Expression.IsVerbatim (text : List Char) : Expression → Prop
  | integer value => 0 ≤ value
  | negation operand => operand.IsVerbatim text
  | unsupported source => source <:+: text ∧ IsTrimmed source

namespace Expression

theorem IsVerbatim.mono {text larger : List Char} (hlarger : text <:+: larger)
    {expression : Expression} (h : expression.IsVerbatim text) : expression.IsVerbatim larger := by
  induction expression with
  | integer value => exact h
  | negation operand ih => exact ih h
  | unsupported source => exact ⟨h.1.trans hlarger, h.2⟩

theorem readUnsigned_isVerbatim {text : List Char} {expression : Expression}
    (htrimmed : IsTrimmed text) (h : readUnsigned text = .ok expression) :
    expression.IsVerbatim text := by
  by_cases hliteral : Literal.isLiteral text = true
  · obtain ⟨literal, rfl⟩ := IntegerLiteral.isLiteral_iff.mp hliteral
    by_cases hlong : literal.IsOverlong
    · rw [readUnsigned, if_pos hliteral, IntegerLiteral.read_text_of_overlong hlong] at h
      cases h
    · rw [IntegerLiteral.readUnsigned_text hlong] at h
      obtain rfl := Except.ok.inj h
      exact Int.natCast_nonneg _
  · rw [readUnsigned, if_neg hliteral] at h
    obtain rfl := Except.ok.inj h
    exact ⟨List.infix_refl text, htrimmed⟩

theorem isTrimmed_operand {operand : List Char} (htrimmed : IsTrimmed ('-' :: operand))
    (h : isOperand operand = true) : IsTrimmed operand := by
  cases operand with
  | nil => simp [isOperand] at h
  | cons c rest =>
    constructor
    · rintro d ⟨⟩
      simp only [isOperand, Bool.and_eq_true, Bool.not_eq_true'] at h
      exact h.1
    · exact htrimmed.2

theorem read_isVerbatim {text : List Char} {expression : Expression}
    (h : read text = .ok expression) : expression.IsVerbatim text := by
  have htrimmed := isTrimmed_trim text
  apply IsVerbatim.mono (trim_isInfix text)
  rw [read_eq] at h
  split at h
  · rename_i operand hminus
    rw [hminus] at htrimmed ⊢
    split at h
    · rename_i hoperand
      cases hread : readUnsigned operand with
      | error error =>
        rw [hread] at h
        exact nomatch h
      | ok inner =>
        rw [hread] at h
        obtain rfl := Except.ok.inj h
        have hinner := readUnsigned_isVerbatim (isTrimmed_operand htrimmed hoperand) hread
        exact hinner.mono (List.suffix_cons '-' operand).isInfix
    · obtain rfl := Except.ok.inj h
      exact ⟨List.infix_refl _, htrimmed⟩
  · exact readUnsigned_isVerbatim htrimmed h

end Expression

end EnumExport
