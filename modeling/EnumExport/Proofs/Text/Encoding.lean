import EnumExport.Text.Utf8

namespace EnumExport

namespace Utf8

theorem toNat_ofNat {n : Nat} (h : n < 0x100) : (UInt8.ofNat n).toNat = n :=
  UInt8.toNat_ofNat_of_lt' h

theorem toNat_tailByte (n : Nat) : (tailByte n).toNat = 0x80 + n % 0x40 :=
  toNat_ofNat (by omega)

theorem isTail_tailByte (n : Nat) : isTail (tailByte n) = true := by
  simp only [isTail, toNat_tailByte, Bool.and_eq_true, decide_eq_true_eq]
  omega

theorem tailBits_tailByte (n : Nat) : tailBits (tailByte n) = n % 0x40 := by
  rw [tailBits, toNat_tailByte]
  omega

theorem isSecond_iff (a : UInt8) (n : Nat) :
    isSecond a (tailByte n) = true ↔
      (a.toNat = 0xE0 → 0x20 ≤ n % 0x40) ∧ (a.toNat = 0xED → n % 0x40 < 0x20) ∧
        (a.toNat = 0xF0 → 0x10 ≤ n % 0x40) ∧ (a.toNat = 0xF4 → n % 0x40 < 0x10) := by
  rw [isSecond, isTail_tailByte, Bool.true_and, toNat_tailByte]
  split
  · simp only [decide_eq_true_eq]
    omega
  · split
    · simp only [decide_eq_true_eq]
      omega
    · split
      · simp only [decide_eq_true_eq]
        omega
      · split
        · simp only [decide_eq_true_eq]
          omega
        · simp only [true_iff]
          omega

theorem encodeChar_eq (c : Char) : encodeChar c = String.utf8EncodeChar c := by
  have hvalid : c.toNat < 0xD800 ∨ 0xDFFF < c.toNat ∧ c.toNat < 0x110000 := c.valid
  have hval : c.val.toNat = c.toNat := rfl
  have htail (n : Nat) : tailByte n = UInt8.ofNat (n % 64 + 128) := by rw [tailByte, Nat.add_comm]
  simp only [encodeChar, String.utf8EncodeChar, hval, htail]
  split
  · rw [if_pos (by omega)]
  · split
    · rw [if_neg (by omega), if_pos (by omega)]
      congr 2
      omega
    · split
      · rw [if_neg (by omega), if_neg (by omega), if_pos (by omega)]
        congr 2
        omega
      · rw [if_neg (by omega), if_neg (by omega), if_neg (by omega)]
        congr 2
        omega

theorem encode_eq (text : List Char) : encode text = text.utf8Encode.data.toList := by
  rw [encode, funext encodeChar_eq, List.utf8Encode, List.toList_data_toByteArray]

theorem next_two {a : UInt8} {n : Nat} (rest : List UInt8)
    (ha : 0xC2 ≤ a.toNat ∧ a.toNat < 0xE0) :
    next a (tailByte n :: rest) = .ok (Char.ofNat (a.toNat % 0x20 * 0x40 + n % 0x40), 2) := by
  have hsize : size? a = some 2 := by
    simp only [size?]
    rw [if_neg (by omega), if_neg (by omega), if_pos (by omega)]
  have hsecond : isSecond a (tailByte n) = true := by
    rw [isSecond_iff]
    omega
  simp [next, hsize, hsecond, tailBits_tailByte]

theorem next_three {a : UInt8} {n m : Nat} (rest : List UInt8)
    (ha : 0xE0 ≤ a.toNat ∧ a.toNat < 0xF0) (hsecond : isSecond a (tailByte n) = true) :
    next a (tailByte n :: tailByte m :: rest) =
      .ok (Char.ofNat (a.toNat % 0x10 * 0x1000 + n % 0x40 * 0x40 + m % 0x40), 3) := by
  have hsize : size? a = some 3 := by
    simp only [size?]
    rw [if_neg (by omega), if_neg (by omega), if_neg (by omega), if_pos (by omega)]
  simp [next, hsize, hsecond, isTail_tailByte, tailBits_tailByte]

theorem next_four {a : UInt8} {n m k : Nat} (rest : List UInt8)
    (ha : 0xF0 ≤ a.toNat ∧ a.toNat < 0xF5) (hsecond : isSecond a (tailByte n) = true) :
    next a (tailByte n :: tailByte m :: tailByte k :: rest) =
      .ok (Char.ofNat (a.toNat % 8 * 0x40000 + n % 0x40 * 0x1000 + m % 0x40 * 0x40 + k % 0x40),
        4) := by
  have hsize : size? a = some 4 := by
    simp only [size?]
    rw [if_neg (by omega), if_neg (by omega), if_neg (by omega), if_neg (by omega),
      if_pos (by omega)]
  simp [next, hsize, hsecond, isTail_tailByte, tailBits_tailByte]

theorem next_encodeChar (c : Char) (rest : List UInt8) :
    ∃ a tail, encodeChar c = a :: tail ∧ next a (tail ++ rest) = .ok (c, tail.length + 1) := by
  have hvalid : c.toNat < 0xD800 ∨ 0xDFFF < c.toNat ∧ c.toNat < 0x110000 := c.valid
  have hback {n : Nat} (h : n = c.toNat) : Char.ofNat n = c := by rw [h, Char.ofNat_toNat]
  -- One case for each number of bytes, and arithmetic puts the number together again.
  simp only [encodeChar]
  split
  · rename_i hone
    refine ⟨_, _, rfl, ?_⟩
    have ha := toNat_ofNat (n := c.toNat) (by omega)
    have hsize : size? (UInt8.ofNat c.toNat) = some 1 := by
      simp only [size?, ha]
      rw [if_pos hone]
    simp only [next, hsize]
    rw [ha, hback rfl]
    rfl
  · split
    · rename_i htwo
      refine ⟨_, _, rfl, ?_⟩
      have ha := toNat_ofNat (n := 0xC0 + c.toNat / 0x40) (by omega)
      rw [List.singleton_append, next_two rest (by omega), ha, hback (by omega)]
      rfl
    · split
      · rename_i hthree
        refine ⟨_, _, rfl, ?_⟩
        have ha := toNat_ofNat (n := 0xE0 + c.toNat / 0x1000) (by omega)
        rw [List.cons_append, List.singleton_append, next_three rest (by omega), ha,
          hback (by omega)]
        · rfl
        · rw [isSecond_iff, ha]
          omega
      · refine ⟨_, _, rfl, ?_⟩
        have ha := toNat_ofNat (n := 0xF0 + c.toNat / 0x40000) (by omega)
        rw [List.cons_append, List.cons_append, List.singleton_append, next_four rest (by omega),
          ha, hback (by omega)]
        · rfl
        · rw [isSecond_iff, ha]
          omega

theorem decodeFrom_encode (position : Nat) (text : List Char) :
    decodeFrom position (encode text) = .ok text := by
  induction text generalizing position with
  | nil => simp [encode, decodeFrom]
  | cons c text ih =>
    obtain ⟨a, tail, hbytes, hnext⟩ := next_encodeChar c (encode text)
    have hencode : encode (c :: text) = a :: (tail ++ encode text) := by
      rw [encode, List.flatMap_cons, hbytes, List.cons_append]
      rfl
    rw [hencode, decodeFrom, hnext]
    simp [ih, Except.map]

theorem decode_encode (text : List Char) : decode (encode text) = .ok text :=
  decodeFrom_encode 0 text

end Utf8

end EnumExport
