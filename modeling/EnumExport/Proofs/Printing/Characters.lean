import EnumExport.Proofs.Printing.Grammar
import EnumExport.Proofs.Text.Words

namespace EnumExport

theorem wellNested_of_forall {text : List Char}
    (h : ∀ c ∈ text, opensGroup c = false ∧ closesGroup c = false) : WellNested text := by
  induction text with
  | nil => exact .nil
  | cons c text ih =>
    obtain ⟨hc, htext⟩ := List.forall_mem_cons.mp h
    exact .plain hc.1 hc.2 (ih htext)

theorem isWord_of_isDigit (radix : Radix) {c : Char}
    (h : Numeral.isDigit radix.base c = true) : isWord c = true := by
  have hc := Numeral.toNat_lt_of_isDigit h
  revert h
  apply forall_ascii (p := fun c => Numeral.isDigit radix.base c = true → isWord c = true) _ hc
  cases radix <;> decide

theorem isStop_of_isWord {c : Char} (h : isWord c = true) : isStop c = false := by
  have hall : ∀ d ∈ ['"', '/', '@', '{', '}'], isWord d = false := by decide
  rw [Bool.eq_false_iff]
  intro hs
  rw [hall c (List.contains_iff_mem.mp hs)] at h
  exact absurd h (by decide)

theorem isJoint_of_isWord {c : Char} (h : isWord c = true) : isJoint c = false := by
  rw [Bool.eq_false_iff]
  intro hj
  simp only [isJoint, Bool.or_eq_true, beq_iff_eq] at hj
  rcases hj with rfl | rfl <;> exact absurd h (by decide)

theorem ne_of_isStop {c d : Char} (h : isStop c = false) (hd : isStop d = true) : c ≠ d := by
  rintro rfl
  rw [h] at hd
  exact absurd hd (by decide)

theorem isSpacing_of_mem_spaces {n : Nat} {c : Char} (h : c ∈ ' ' :: List.replicate n ' ') :
    isSpacing c = true := by
  rw [List.eq_of_mem_replicate (n := n + 1) h]
  decide

theorem isStop_of_isSpacing {c : Char} (h : isSpacing c = true) : isStop c = false := by
  simp only [isSpacing, Bool.or_eq_true, beq_iff_eq] at h
  rcases h with (rfl | rfl) | rfl <;> decide

theorem isStop_of_endsStatement {c : Char} (h : endsStatement c = true) : isStop c = false := by
  simp only [endsStatement, Bool.or_eq_true, beq_iff_eq] at h
  rcases h with rfl | rfl <;> decide

theorem Identifier.isWord_text (name : Identifier) : ∀ c ∈ name.text, isWord c = true := by
  intro c hc
  rcases List.mem_cons.mp hc with rfl | hc
  · exact isWord_of_isNameStart name.isNameStart_first
  · exact name.isWord_more c hc

theorem IntegerLiteral.isWord_text (literal : IntegerLiteral) :
    ∀ c ∈ literal.text, isWord c = true := by
  have hmarker : ∀ c ∈ literal.radix.marker, isWord c = true := by
    cases literal.radix <;> decide
  intro c hc
  rcases List.mem_append.mp hc with hc | hc
  · exact hmarker c hc
  · rcases List.mem_cons.mp hc with rfl | hc
    · exact isWord_of_isDigit _ literal.isDigit_first
    · rcases literal.isDigit_more c hc with rfl | hd
      · decide
      · exact isWord_of_isDigit _ hd

theorem SignedLiteral.mem_text {signed : SignedLiteral} {c : Char} (h : c ∈ signed.text) :
    c = '-' ∨ isWord c = true := by
  unfold text at h
  split at h
  · rcases List.mem_cons.mp h with rfl | h
    · exact Or.inl rfl
    · exact Or.inr (signed.literal.isWord_text c h)
  · exact Or.inr (signed.literal.isWord_text c h)

theorem PrintedCase.mem_writtenName {printed : PrintedCase} {c : Char}
    (h : c ∈ printed.writtenName) : c = tick ∨ isWord c = true := by
  unfold writtenName at h
  split at h
  · rcases List.mem_cons.mp h with rfl | h
    · exact Or.inl rfl
    · rcases List.mem_append.mp h with h | h
      · exact Or.inr (printed.name.isWord_text c h)
      · exact Or.inl (List.mem_singleton.mp h)
  · exact Or.inr (printed.name.isWord_text c h)

abbrev HoldsNoStop (text : List Char) : Prop := ∀ c ∈ text, isStop c = false

theorem holdsNoStop_append {text more : List Char} (h : HoldsNoStop text)
    (hmore : HoldsNoStop more) : HoldsNoStop (text ++ more) :=
  List.forall_mem_append.mpr ⟨h, hmore⟩

theorem holdsNoStop_cons {c : Char} {text : List Char} (hc : isStop c = false)
    (h : HoldsNoStop text) : HoldsNoStop (c :: text) := List.forall_mem_cons.mpr ⟨hc, h⟩

theorem head_ne_quote_of_holdsNoStop {text rest : List Char} (h : HoldsNoStop text)
    (hrest : text = [] → ∀ c ∈ rest.head?, c ≠ '"') : ∀ c ∈ (text ++ rest).head?, c ≠ '"' := by
  cases text with
  | nil => exact hrest rfl
  | cons c text =>
    intro d hd
    obtain rfl : c = d := by simpa using hd
    exact ne_of_isStop (h c (List.mem_cons_self ..)) (by decide)

theorem holdsNoStop_spacing (spacing : Spacing) : HoldsNoStop spacing.val :=
  fun c hc => isStop_of_isSpacing (spacing.property c hc)

theorem holdsNoStop_joint (joint : Joint) {mark : Char} (h : isStop mark = false) :
    HoldsNoStop (joint.text mark) := by
  apply holdsNoStop_append (holdsNoStop_spacing joint.before)
  exact holdsNoStop_cons h (holdsNoStop_spacing joint.after)

theorem AssociatedValues.holdsNoStop_text (values : AssociatedValues) :
    HoldsNoStop values.text := by
  apply holdsNoStop_cons (by decide)
  exact holdsNoStop_append values.notStop (by decide)

theorem Assignment.holdsNoStop_text (assignment : Assignment) : HoldsNoStop assignment.text := by
  apply holdsNoStop_append (holdsNoStop_joint _ (by decide))
  intro c hc
  rcases SignedLiteral.mem_text hc with rfl | hc
  · decide
  · exact isStop_of_isWord hc

namespace PrintedCase

theorem holdsNoStop_text (printed : PrintedCase) : HoldsNoStop printed.text := by
  apply holdsNoStop_append
  · intro c hc
    rcases mem_writtenName hc with rfl | hc
    · decide
    · exact isStop_of_isWord hc
  · apply holdsNoStop_append
    · cases printed.values with
      | none => exact List.forall_mem_nil _
      | some values => exact values.holdsNoStop_text
    · cases printed.assignment with
      | none => exact List.forall_mem_nil _
      | some assignment => exact assignment.holdsNoStop_text

end PrintedCase

theorem PrintedStatement.holdsNoStop_text (statement : PrintedStatement) :
    HoldsNoStop statement.text := by
  apply holdsNoStop_append (by decide)
  apply holdsNoStop_append
  · exact fun c hc => isStop_of_isSpacing (isSpacing_of_mem_spaces hc)
  · apply holdsNoStop_append statement.first.holdsNoStop_text
    intro c hc
    obtain ⟨⟨joint, printed⟩, -, hc⟩ := List.mem_flatMap.mp hc
    exact holdsNoStop_append (holdsNoStop_joint joint (by decide)) printed.holdsNoStop_text c hc

theorem holdsNoStop_gap (gap : Gap) : HoldsNoStop gap.val := by
  intro c hc
  rcases gap.property c hc with h | h
  · exact isStop_of_isSpacing h
  · exact isStop_of_endsStatement h

theorem PrintedBody.holdsNoStop_text (body : PrintedBody) : HoldsNoStop body.text := by
  induction body with
  | blank gap => exact holdsNoStop_gap gap
  | last before statement after =>
    apply holdsNoStop_append (holdsNoStop_gap before)
    exact holdsNoStop_append statement.holdsNoStop_text (holdsNoStop_gap after)
  | more before statement after separator rest ih =>
    apply holdsNoStop_append (holdsNoStop_gap before)
    apply holdsNoStop_append statement.holdsNoStop_text
    apply holdsNoStop_append (holdsNoStop_gap after)
    exact holdsNoStop_cons (isStop_of_endsStatement separator.property) ih

def EndsFirmly (text : List Char) : Prop :=
  ∃ front c, text = front ++ [c] ∧ isBlank c = false ∧ isJoint c = false

theorem EndsFirmly.append_left {text : List Char} (front : List Char) (h : EndsFirmly text) :
    EndsFirmly (front ++ text) := by
  obtain ⟨middle, c, rfl, hc⟩ := h
  exact ⟨front ++ middle, c, by simp, hc⟩

theorem endsFirmly_of_isWord {text : List Char} (hne : text ≠ [])
    (h : ∀ c ∈ text, isWord c = true) : EndsFirmly text := by
  have hlast := h _ (List.getLast_mem hne)
  exact ⟨text.dropLast, text.getLast hne, (List.dropLast_concat_getLast hne).symm,
    isBlank_of_isWord hlast, isJoint_of_isWord hlast⟩

theorem SignedLiteral.endsFirmly_text (signed : SignedLiteral) : EndsFirmly signed.text := by
  have hliteral : EndsFirmly signed.literal.text := by
    apply endsFirmly_of_isWord _ signed.literal.isWord_text
    simp [IntegerLiteral.text]
  rw [text]
  split
  · exact hliteral.append_left ['-']
  · exact hliteral

theorem AssociatedValues.endsFirmly_text (values : AssociatedValues) : EndsFirmly values.text :=
  ⟨'(' :: values.inner, ')', by simp [text], by decide, by decide⟩

theorem PrintedCase.endsFirmly_text (printed : PrintedCase) : EndsFirmly printed.text := by
  rw [text, afterName]
  cases printed.assignment with
  | some assignment =>
    apply EndsFirmly.append_left
    apply EndsFirmly.append_left
    apply EndsFirmly.append_left
    exact assignment.signed.endsFirmly_text
  | none =>
    cases printed.values with
    | some values =>
      apply EndsFirmly.append_left
      simpa using values.endsFirmly_text
    | none =>
      simp only [Option.map_none, Option.getD_none, List.append_nil, writtenName]
      split
      · exact ⟨tick :: printed.name.text, tick, rfl, by decide, by decide⟩
      · exact endsFirmly_of_isWord (List.cons_ne_nil _ _) printed.name.isWord_text

theorem PrintedStatement.endsFirmly_append {front : List Char} (h : EndsFirmly front)
    (more : List (Joint × PrintedCase)) : EndsFirmly (front ++ moreText more) := by
  induction more generalizing front with
  | nil => simpa [moreText] using h
  | cons next more ih =>
    have hnext : EndsFirmly (front ++ (next.1.text ',' ++ next.2.text)) :=
      (next.2.endsFirmly_text.append_left _).append_left front
    have hmore := ih hnext
    rwa [List.append_assoc] at hmore

theorem PrintedStatement.endsFirmly_text (statement : PrintedStatement) :
    EndsFirmly statement.text := by
  apply EndsFirmly.append_left
  apply EndsFirmly.append_left (' ' :: List.replicate statement.moreSpaces ' ')
  exact endsFirmly_append statement.first.endsFirmly_text statement.more

end EnumExport
