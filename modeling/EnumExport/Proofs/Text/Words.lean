import EnumExport.Proofs.Literals.Grammar
import EnumExport.Text.Word

namespace EnumExport

theorem ne_of_holds {p : Char → Bool} {c d : Char} (h : p c = true) (hd : p d = false) : c ≠ d := by
  rintro rfl
  rw [h] at hd
  exact absurd hd (by decide)

theorem toNat_mem_of_isBlank {c : Char} (h : isBlank c = true) :
    c.toNat ∈ [0x09, 0x0A, 0x0B, 0x0C, 0x0D, 0x1C, 0x1D, 0x1E, 0x1F] ++ blankCodes := by
  simp only [isBlank, Bool.or_eq_true, Bool.and_eq_true, decide_eq_true_eq,
    List.contains_iff_mem] at h
  rw [List.mem_append]
  rcases h with (h | h) | h
  · left
    simp only [List.mem_cons, List.not_mem_nil, or_false]
    omega
  · left
    simp only [List.mem_cons, List.not_mem_nil, or_false]
    omega
  · exact Or.inr h

theorem isWord_of_isBlank {c : Char} (h : isBlank c = true) : isWord c = false := by
  have hall : ∀ n ∈ [0x09, 0x0A, 0x0B, 0x0C, 0x0D, 0x1C, 0x1D, 0x1E, 0x1F] ++ blankCodes,
      isWord (Char.ofNat n) = false := by decide +kernel
  have hc := hall c.toNat (toNat_mem_of_isBlank h)
  rwa [Char.ofNat_toNat] at hc

theorem isBlank_of_isWord {c : Char} (h : isWord c = true) : isBlank c = false := by
  rw [Bool.eq_false_iff]
  intro hb
  rw [isWord_of_isBlank hb] at h
  exact absurd h (by decide)

theorem toNat_lt_of_isNameStart {c : Char} (h : isNameStart c = true) : c.toNat < 128 := by
  have hranges : (decide (c.val ≥ 65 ∧ c.val ≤ 90) || (c.val ≥ 97 && c.val ≤ 122) ||
      c == '_') = true := h
  simp only [Bool.or_eq_true, Bool.and_eq_true, decide_eq_true_eq, beq_iff_eq, ge_iff_le,
    UInt32.le_iff_toNat_le] at hranges
  rcases hranges with (h | h) | rfl
  · have hle : c.val.toNat ≤ 90 := h.2
    change c.val.toNat < 128
    omega
  · have hle : c.val.toNat ≤ 122 := h.2
    change c.val.toNat < 128
    omega
  · decide

theorem toNat_lt_of_isAsciiWord {c : Char} (h : isAsciiWord c = true) : c.toNat < 128 := by
  rcases Bool.or_eq_true_iff.mp h with h | h
  · rcases Bool.or_eq_true_iff.mp h with h | h
    · apply toNat_lt_of_isNameStart
      rw [isNameStart, h, Bool.true_or]
    · have hle : c.val.toNat ≤ 57 := by
        have hdigit := h
        simp only [Char.isDigit, Bool.and_eq_true, decide_eq_true_eq, UInt32.le_iff_toNat_le]
          at hdigit
        exact hdigit.2
      change c.val.toNat < 128
      omega
  · rw [beq_iff_eq.mp h]
    decide

theorem isWord_of_isNameStart {c : Char} (h : isNameStart c = true) : isWord c = true := by
  have hc := toNat_lt_of_isNameStart h
  revert h
  exact forall_ascii (p := fun c => isNameStart c = true → isWord c = true) (by decide) hc

end EnumExport
