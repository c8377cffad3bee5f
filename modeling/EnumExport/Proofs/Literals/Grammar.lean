import EnumExport.Source.Expression
import Mathlib.Data.List.TakeWhile
import Mathlib.Data.Nat.Digits.Defs

namespace EnumExport

theorem forall_ascii {p : Char → Prop} (h : ∀ n < 128, p (Char.ofNat n)) {c : Char}
    (hc : c.toNat < 128) : p c := by
  have hp := h c.toNat hc
  rwa [Char.ofNat_toNat] at hp

inductive Radix where
  | decimal
  | hexadecimal
  | octal
  | binary
deriving DecidableEq, Repr

namespace Radix

def base : Radix → Nat
  | decimal => 10
  | hexadecimal => 16
  | octal => 8
  | binary => 2

def marker : Radix → List Char
  | decimal => []
  | hexadecimal => ['0', 'x']
  | octal => ['0', 'o']
  | binary => ['0', 'b']

end Radix

namespace Numeral

theorem toNat_lt_of_isDigit {base : Nat} {c : Char} (h : isDigit base c = true) :
    c.toNat < 128 := by
  by_contra hc
  have hrange (last : Char) (hlast : last.toNat < 128) : ¬ c ≤ last := by
    intro hle
    have := Char.le_def.mp hle
    have := UInt32.le_iff_toNat_le.mp this
    simp only [Char.toNat] at hc hlast
    omega
  have h9 := hrange '9' (by decide)
  have hf := hrange 'f' (by decide)
  have hF := hrange 'F' (by decide)
  simp [isDigit, digit?, h9, hf, hF] at h

theorem plain_digit (radix : Radix) {c : Char} (h : isDigit radix.base c = true) :
    plain c = c ∧ isPlainBlank c = false ∧ c ≠ '-' ∧ c ≠ '+' ∧ c ≠ '_' ∧
      marker? radix.base ≠ some c.toLower := by
  have hc := toNat_lt_of_isDigit h
  have hplain : plain c = c := by simp [plain, hc]
  refine ⟨hplain, ?_⟩
  revert h
  apply forall_ascii (p := fun c => isDigit radix.base c = true → isPlainBlank c = false ∧
    c ≠ '-' ∧ c ≠ '+' ∧ c ≠ '_' ∧ marker? radix.base ≠ some c.toLower) _ hc
  cases radix <;> decide

end Numeral

structure IntegerLiteral where
  radix : Radix
  first : Char
  more : List Char
  isDigit_first : Numeral.isDigit radix.base first = true
  isDigit_more : ∀ c ∈ more, c = '_' ∨ Numeral.isDigit radix.base c = true

namespace IntegerLiteral

def text (literal : IntegerLiteral) : List Char :=
  literal.radix.marker ++ literal.first :: literal.more

def digits (literal : IntegerLiteral) : List Char :=
  literal.first :: literal.more.filter (· != '_')

def value (literal : IntegerLiteral) : Nat :=
  Nat.ofDigits literal.radix.base
    (literal.digits.reverse.map fun c => (Numeral.digit? literal.radix.base c).getD 0)

def IsOverlong (literal : IntegerLiteral) : Prop :=
  literal.radix = .decimal ∧ digitLimit < literal.digits.length

theorem digits_ne_nil (literal : IntegerLiteral) : literal.digits ≠ [] := List.cons_ne_nil _ _

theorem isDigit_digits (literal : IntegerLiteral) :
    ∀ c ∈ literal.digits, Numeral.isDigit literal.radix.base c = true := by
  intro c hc
  rcases List.mem_cons.mp hc with rfl | hc
  · exact literal.isDigit_first
  · obtain ⟨hmem, hne⟩ := List.mem_filter.mp hc
    exact (literal.isDigit_more c hmem).resolve_left (by simpa using hne)

theorem isDigitRun (literal : IntegerLiteral) :
    Literal.isDigitRun literal.radix.base (literal.first :: literal.more) = true := by
  simp only [Literal.isDigitRun, literal.isDigit_first, Bool.true_and, List.all_eq_true,
    Bool.or_eq_true, beq_iff_eq]
  exact literal.isDigit_more

theorem isLiteral_text (literal : IntegerLiteral) : Literal.isLiteral literal.text = true := by
  have hrun := literal.isDigitRun
  cases hr : literal.radix <;>
    simp_all [Literal.isLiteral, text, Radix.marker, Radix.base, Literal.bases, Numeral.marker?]

theorem exists_of_isDigitRun {radix : Radix} {text : List Char}
    (h : Literal.isDigitRun radix.base text = true) :
    ∃ literal : IntegerLiteral, literal.radix = radix ∧ literal.text = radix.marker ++ text := by
  cases text with
  | nil => simp [Literal.isDigitRun] at h
  | cons c rest =>
    simp only [Literal.isDigitRun, Bool.and_eq_true, List.all_eq_true, Bool.or_eq_true,
      beq_iff_eq] at h
    exact ⟨⟨radix, c, rest, h.1, h.2⟩, rfl, rfl⟩

theorem exists_of_isLiteral {text : List Char} (h : Literal.isLiteral text = true) :
    ∃ literal : IntegerLiteral, literal.text = text := by
  unfold Literal.isLiteral at h
  rcases Bool.or_eq_true_iff.mp h with h | h
  · obtain ⟨literal, -, ht⟩ := @exists_of_isDigitRun .decimal _ h
    exact ⟨literal, ht⟩
  · split at h
    · rename_i c rest _
      simp only [Literal.bases, List.any_cons, List.any_nil, Bool.or_false, Numeral.marker?,
        Bool.or_eq_true, Bool.and_eq_true, beq_iff_eq] at h
      rcases h with ⟨hm, hrun⟩ | ⟨hm, hrun⟩ | ⟨hm, hrun⟩ <;> obtain rfl := Option.some.inj hm
      · obtain ⟨literal, -, ht⟩ := @exists_of_isDigitRun .hexadecimal _ hrun
        exact ⟨literal, ht⟩
      · obtain ⟨literal, -, ht⟩ := @exists_of_isDigitRun .octal _ hrun
        exact ⟨literal, ht⟩
      · obtain ⟨literal, -, ht⟩ := @exists_of_isDigitRun .binary _ hrun
        exact ⟨literal, ht⟩
    · simp at h

theorem isLiteral_iff {text : List Char} :
    Literal.isLiteral text = true ↔ ∃ literal : IntegerLiteral, literal.text = text := by
  refine ⟨exists_of_isLiteral, ?_⟩
  rintro ⟨literal, rfl⟩
  exact literal.isLiteral_text

end IntegerLiteral

theorem Numeral.value_eq_ofDigits (base : Nat) (digits : List Char) :
    Numeral.value base digits =
      Nat.ofDigits base (digits.reverse.map fun c => (Numeral.digit? base c).getD 0) := by
  rw [Numeral.value, ← List.foldr_reverse]
  induction digits.reverse with
  | nil => rfl
  | cons c rest ih =>
    rw [List.foldr_cons, ih, List.map_cons, Nat.ofDigits_cons]
    ring

theorem Numeral.read_digits (radix : Radix) {digits : List Char} (hne : digits ≠ [])
    (h : ∀ c ∈ digits, isDigit radix.base c = true) :
    Numeral.read radix.base digits =
      if radix.base = 10 ∧ digitLimit < digits.length then .error (.tooLong digits.length)
      else .ok (value radix.base digits) := by
  have hplain : digits.map plain = digits := by
    conv => rhs; rw [← List.map_id digits]
    exact List.map_congr_left fun c hc => (plain_digit radix (h c hc)).1
  obtain ⟨c, rest, rfl⟩ := List.exists_cons_of_ne_nil hne
  obtain ⟨-, hblank, hminus, hplus, -, -⟩ := plain_digit radix (h c (List.mem_cons_self ..))
  have hsign : splitSign (c :: rest) = (false, c :: rest) := by
    unfold splitSign
    split <;> simp_all
  -- No digit of a base is the letter that marks the base.
  have hmarker : dropMarker radix.base (c :: rest) = c :: rest := by
    unfold dropMarker
    split
    · rename_i d rest' heq
      obtain ⟨-, rfl⟩ := List.cons.inj heq
      obtain ⟨-, -, -, -, -, hd⟩ := plain_digit radix (h d (by simp))
      rw [if_neg hd, heq]
    · rfl
  have htake : (c :: rest).takeWhile (isDigit radix.base) = c :: rest :=
    List.takeWhile_eq_self_iff.mpr h
  have hdrop : (c :: rest).dropWhile (isDigit radix.base) = [] :=
    List.dropWhile_eq_nil_iff.mpr h
  rw [read, hplain]
  simp [hblank, hsign, hmarker, htake, hdrop]

theorem Literal.baseOf_digits {digits : List Char}
    (h : ∀ c ∈ digits, Numeral.isDigit 10 c = true) : baseOf digits = 10 := by
  unfold baseOf
  split
  · rename_i c rest
    have hc := h c (by simp)
    have hnone : (bases.find? fun base => Numeral.marker? base == some c.toLower) = none := by
      revert hc
      apply forall_ascii (p := fun c => Numeral.isDigit 10 c = true →
        (bases.find? fun base => Numeral.marker? base == some c.toLower) = none) (by decide)
      exact Numeral.toNat_lt_of_isDigit (h c (by simp))
    rw [hnone, Option.getD_none]
  · rfl

namespace IntegerLiteral

theorem dropSeparators_text (literal : IntegerLiteral) :
    Literal.dropSeparators literal.text = literal.radix.marker ++ literal.digits := by
  obtain ⟨-, -, -, -, hfirst, -⟩ := Numeral.plain_digit _ literal.isDigit_first
  have hmarker : literal.radix.marker.filter (· != '_') = literal.radix.marker := by
    cases literal.radix <;> decide
  rw [Literal.dropSeparators, text, List.filter_append, hmarker, List.filter_cons, digits]
  simp [hfirst]

theorem read_text_eq (literal : IntegerLiteral) :
    Literal.read literal.text = Numeral.read literal.radix.base literal.digits := by
  have hdigits := literal.isDigit_digits
  rw [Literal.read, dropSeparators_text]
  cases hr : literal.radix with
  | decimal =>
    rw [hr] at hdigits
    simp [Radix.marker, Radix.base, Literal.baseOf_digits hdigits]
  | hexadecimal => rfl
  | octal => rfl
  | binary => rfl

theorem read_text_of_overlong {literal : IntegerLiteral} (h : literal.IsOverlong) :
    Literal.read literal.text = .error (.tooLong literal.digits.length) := by
  rw [read_text_eq, Numeral.read_digits _ literal.digits_ne_nil literal.isDigit_digits,
    if_pos ⟨by rw [h.1]; rfl, h.2⟩]

theorem read_text {literal : IntegerLiteral} (h : ¬ literal.IsOverlong) :
    Literal.read literal.text = .ok literal.value := by
  have hshort : ¬ (literal.radix.base = 10 ∧ digitLimit < literal.digits.length) := by
    rintro ⟨hbase, hlen⟩
    refine h ⟨?_, hlen⟩
    revert hbase
    cases literal.radix <;> decide
  rw [read_text_eq, Numeral.read_digits _ literal.digits_ne_nil literal.isDigit_digits,
    if_neg hshort, Numeral.value_eq_ofDigits, value]

end IntegerLiteral

end EnumExport
