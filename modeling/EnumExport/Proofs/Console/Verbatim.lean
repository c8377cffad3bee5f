import EnumExport.Proofs.Console.Diagnostics
import EnumExport.Proofs.Console.Emoji

namespace EnumExport

def isControl (c : Char) : Bool := c.toNat < 0x20 || (0x7F ≤ c.toNat && c.toNat < 0xA0)

theorem isControl_of_isDevice {c : Char} (h : Markup.isDevice c = true) :
    isControl c = true ∧ c ≠ '\n' := by
  simp only [Markup.isDevice, Bool.or_eq_true, beq_iff_eq] at h
  constructor
  · simp only [isControl, Bool.or_eq_true, decide_eq_true_eq]
    omega
  · rintro rfl
    revert h
    decide

theorem expandTabsAfter_eq {text : List Char} (before : List Char) (h : '\t' ∉ text) :
    expandTabsAfter before text = before.reverse ++ text := by
  induction text generalizing before with
  | nil => simp [expandTabsAfter]
  | cons c text ih =>
    rw [List.mem_cons, not_or] at h
    rw [expandTabsAfter, if_neg (Ne.symm h.1), ih _ h.2, ih _ h.2]
    split <;> simp

theorem expandTabs_eq_self {text : List Char} (h : '\t' ∉ text) : expandTabs text = text :=
  expandTabsAfter_eq [] h

namespace Markup

structure IsPlain (text : List Char) : Prop where
  no_backslash : '\\' ∉ text
  no_control : ∀ c ∈ text, isControl c = true → c = '\n'
  namesNone : Emoji.NamesNone text

theorem IsPlain.of_infix {text part : List Char} (h : IsPlain text) (hpart : part <:+: text) :
    IsPlain part :=
  ⟨fun hc => h.no_backslash (hpart.subset hc), fun c hc => h.no_control c (hpart.subset hc),
    h.namesNone.of_infix hpart⟩

theorem IsPlain.no_tab {text : List Char} (h : IsPlain text) : '\t' ∉ text := by
  intro hc
  exact absurd (h.no_control '\t' hc (by decide)) (by decide)

theorem dropBracketEscapes_eq_self {text : List Char} (h : '\\' ∉ text) :
    dropBracketEscapes text = text := by
  induction text using dropBracketEscapes.induct with
  | case1 text ih => simp at h
  | case2 c text hc ih => rw [dropBracketEscapes, ih (List.not_mem_of_not_mem_cons h)]; exact hc
  | case3 => rfl

theorem dropDevices_eq_self {text : List Char} (h : ∀ c ∈ text, isControl c = true → c = '\n') :
    dropDevices text = text := by
  apply List.filter_eq_self.mpr
  intro c hc
  rw [Bool.not_eq_true', Bool.eq_false_iff]
  intro hdevice
  obtain ⟨hcontrol, hline⟩ := isControl_of_isDevice hdevice
  exact hline (h c hc hcontrol)

theorem plainShown_eq_self {text : List Char} (h : IsPlain text) : plainShown text = text := by
  rw [plainShown, dropBracketEscapes_eq_self h.no_backslash, Emoji.replace_eq_self h.namesNone,
    dropDevices_eq_self h.no_control]

theorem flatMap_plainShown {plains : List (List Char)} (h : IsPlain plains.flatten) :
    plains.flatMap plainShown = plains.flatten := by
  rw [List.flatMap, List.map_congr_left (g := id), List.map_id]
  intro plain hplain
  exact plainShown_eq_self (h.of_infix (List.infix_of_mem_flatten hplain))

theorem getLast?_escapeTags (text : List Char) :
    (escapeTags text).getLast? = text.getLast? := by
  induction text using escapeTags.induct with
  | case1 text m hm ih =>
    obtain ⟨-, htext⟩ := exists_of_match? hm
    rw [escapeTags_match hm]
    conv => rhs; rw [htext]
    simp only [List.getLast?_append, List.getLast?_cons, ih, Option.some_or]
  | case2 => rw [escapeTags_nil]
  | case3 c text hm ih => rw [escapeTags_cons hm, List.getLast?_cons, List.getLast?_cons, ih]

theorem escapeEnd_eq_nil {text : List Char} (h : '\\' ∉ text) : escapeEnd text = [] := by
  have hends : endsInBackslash (escapeTags text) = false := by
    have hlast : (escapeTags text).reverse.head? ≠ some '\\' := by
      rw [List.head?_reverse, getLast?_escapeTags]
      exact fun hmem => h (List.mem_of_getLast? hmem)
    unfold endsInBackslash
    split <;> simp_all
  rw [escapeEnd, hends]
  rfl

end Markup

open Markup

def betweenColons (text : List Char) : List (List Char) :=
  ((splitWhere (· == ':') text).drop 1).dropLast

theorem splitWhere_of_forall {separates : Char → Bool} {text : List Char}
    (h : ∀ c ∈ text, separates c = false) : splitWhere separates text = [text] := by
  induction text with
  | nil => rfl
  | cons c text ih =>
    obtain ⟨hc, htext⟩ := List.forall_mem_cons.mp h
    rw [splitWhere, if_neg (by simp [hc]), ih htext]

theorem splitWhere_append_cons {separates : Char → Bool} {c : Char} (front back : List Char)
    (hc : separates c = true) : splitWhere separates (front ++ c :: back) =
      splitWhere separates front ++ splitWhere separates back := by
  induction front with
  | nil => simp [splitWhere, hc]
  | cons d front ih =>
    rw [List.cons_append, splitWhere, splitWhere, ih]
    by_cases hd : separates d = true
    · simp [hd]
    · rw [if_neg hd, if_neg hd]
      cases hparts : splitWhere separates front with
      | nil => simpa [hparts] using length_splitWhere separates front
      | cons part parts => rfl

theorem mem_betweenColons {text code : List Char} (hcode : ':' ∉ code)
    (h : ':' :: (code ++ [':']) <:+: text) : code ∈ betweenColons text := by
  obtain ⟨front, back, rfl⟩ := h
  have hsplit : splitWhere (· == ':') (front ++ ':' :: (code ++ [':']) ++ back) =
      splitWhere (· == ':') front ++ (code :: splitWhere (· == ':') back) := by
    have hparts : front ++ ':' :: (code ++ [':']) ++ back =
        front ++ ':' :: (code ++ ':' :: back) := by
      simp
    have hone : splitWhere (· == ':') code = [code] := by
      apply splitWhere_of_forall
      intro c hc
      rw [beq_eq_false_iff_ne]
      rintro rfl
      exact hcode hc
    rw [hparts, splitWhere_append_cons _ _ (by decide),
      splitWhere_append_cons _ _ (by decide), hone]
    rfl
  have hfront : splitWhere (· == ':') front ≠ [] := by
    rw [← List.length_pos_iff, length_splitWhere]
    omega
  have hback : splitWhere (· == ':') back ≠ [] := by
    rw [← List.length_pos_iff, length_splitWhere]
    omega
  obtain ⟨first, parts, hfirst⟩ := List.exists_cons_of_ne_nil hfront
  rw [betweenColons, hsplit, hfirst, List.cons_append, List.drop_succ_cons, List.drop_zero,
    List.dropLast_append_cons, List.dropLast_cons_of_ne_nil hback]
  simp

namespace Diagnostic

/-- Whether nothing but tags in a diagnostic could be taken for more than its characters. -/
structure IsPlain (d : Diagnostic) : Prop where
  no_backslash : '\\' ∉ d.location ++ d.problem.message
  no_control : ∀ c ∈ d.location ++ d.problem.message, isControl c = true → c = '\n'
  numbers : ∀ word ∈ betweenColons d.text, (∀ c ∈ word, isBlank c = false) →
    word = [] ∨ (IsNumber word ∧ word ≠ "100".toList ∧ word ≠ "1234".toList)

theorem text_eq (d : Diagnostic) : d.text = (if d.location = [] then [] else d.location ++
    ": ".toList) ++ d.severity.name ++ (": ".toList ++ d.problem.message) := by
  by_cases hl : d.location = [] <;> simp [text, Problem.located, hl]

theorem mem_text {d : Diagnostic} {c : Char} (hc : c ∈ d.text) :
    c ∈ d.location ++ d.problem.message ∨ c ∈ ": ".toList ++ d.severity.name := by
  rw [text_eq] at hc
  simp only [List.mem_append] at hc ⊢
  split at hc
  · simp only [List.not_mem_nil, false_or] at hc
    tauto
  · simp only [List.mem_append] at hc
    tauto

theorem namesNone_text {d : Diagnostic} (h : d.IsPlain) : Emoji.NamesNone d.text := by
  intro code hcode hwithin
  have hchars : ∀ c ∈ code, c ≠ ':' ∧ isBlank c = false := by
    intro c hc
    simpa [Emoji.isCodeChar] using hcode c hc
  have hmem := mem_betweenColons (fun hc => (hchars _ hc).1 rfl) hwithin
  rcases h.numbers code hmem fun c hc => (hchars c hc).2 with rfl | ⟨hnumber, hhundred, hfigures⟩
  · decide
  · exact Emoji.picture?_eq_none hnumber.2 hhundred hfigures

theorem isPlain_text {d : Diagnostic} (hs : d.severity.IsKnown) (h : d.IsPlain) :
    Markup.IsPlain d.text := by
  have hname : ∀ c ∈ ": ".toList ++ d.severity.name, c ≠ '\\' ∧ isControl c = false := by
    cases hseverity : d.severity with
    | other name => simp [hseverity, Severity.IsKnown] at hs
    | _ => decide
  constructor
  · intro hc
    rcases mem_text hc with hc | hc
    · exact h.no_backslash hc
    · exact (hname _ hc).1 rfl
  · intro c hc hcontrol
    rcases mem_text hc with hc | hc
    · exact h.no_control c hc hcontrol
    · rw [(hname c hc).2] at hcontrol
      exact absurd hcontrol (by decide)
  · exact namesNone_text h

theorem consoleText_of_isPlain {d : Diagnostic} (hs : d.severity.IsKnown) (h : d.IsPlain) :
    d.consoleText = .ok (d.text ++ ['\n']) := by
  obtain ⟨before, after, hbefore, hafter, hshown⟩ := exists_consoleText hs
  have hplain := isPlain_text hs h
  have hends : escapeEnd d.location = [] ∧ escapeEnd d.problem.message = [] := by
    have hnot := h.no_backslash
    rw [List.mem_append, not_or] at hnot
    exact ⟨escapeEnd_eq_nil hnot.1, escapeEnd_eq_nil hnot.2⟩
  have htext : d.text = before.flatten ++ d.severity.name ++ after.flatten := by
    rw [text_eq, hbefore, hafter, shownLocation, hends.1, hends.2, List.append_nil, List.append_nil]
  rw [htext] at hplain ⊢
  have hparts : Markup.IsPlain before.flatten ∧ Markup.IsPlain d.severity.name ∧
      Markup.IsPlain after.flatten := by
    refine ⟨hplain.of_infix ?_, hplain.of_infix ?_, hplain.of_infix ?_⟩
    · exact ((List.prefix_append _ _).trans (List.prefix_append _ _)).isInfix
    · exact ⟨before.flatten, after.flatten, rfl⟩
    · exact (List.suffix_append _ _).isInfix
  obtain ⟨hfront, hseverity, hback⟩ := hparts
  rw [hshown, flatMap_plainShown hfront, plainShown_eq_self hseverity, flatMap_plainShown hback,
    expandTabs_eq_self hplain.no_tab]

end Diagnostic

theorem Report.add_verbatim (report : Report) {d : Diagnostic} (hs : d.severity.IsKnown)
    (h : d.IsPlain) :
    report.add d = (.ok (), ⟨report.diagnostics ++ [d], report.console ++ d.text ++ ['\n']⟩) := by
  rw [add, Diagnostic.consoleText_of_isPlain hs h, List.append_assoc]

theorem Report.add_verbatim_tags :
    let d : Diagnostic := ⟨.warning, ⟨"[b]no[/b] such\ntag [/red] at 10:30:00 [x".toList,
      some "src/[a]/b[/c].swift".toList, some 7⟩⟩
    d.severity.IsKnown ∧ d.IsPlain ∧
      ({} : Report).add d = (.ok (), ⟨[d], ("src/[a]/b[/c].swift:7" ++
        ": warning: [b]no[/b] such\ntag [/red] at 10:30:00 [x\n").toList⟩) := by
  intro d
  have hs : d.severity.IsKnown := trivial
  have h : d.IsPlain := ⟨by decide, by decide, by decide +kernel⟩
  have htext : d.text ++ ['\n'] = ("src/[a]/b[/c].swift:7" ++
      ": warning: [b]no[/b] such\ntag [/red] at 10:30:00 [x\n").toList := by decide +kernel
  refine ⟨hs, h, ?_⟩
  rw [Report.add_verbatim {} hs h, List.append_assoc, htext]
  rfl

end EnumExport
