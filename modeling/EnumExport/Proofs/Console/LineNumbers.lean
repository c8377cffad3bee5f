import EnumExport.Proofs.Console.Verbatim
import EnumExport.Proofs.Script.ReadBack
import EnumExport.Proofs.Text.Words

namespace EnumExport

open Markup

theorem Markup.escape_eq_self {text : List Char} (h : ∀ c ∈ text, c ≠ '\\' ∧ c ≠ '[') :
    escape text = text := by
  have htags : escapeTags text = text := by
    induction text with
    | nil => exact escapeTags_nil
    | cons c text ih =>
      obtain ⟨hc, htext⟩ := List.forall_mem_cons.mp h
      rw [escapeTags_cons (match?_other text hc.1 hc.2), ih htext]
  rw [escape_eq, htags, escapeEnd_eq_nil fun hc => (h _ hc).1 rfl, List.append_nil]

theorem Diagnostic.exists_consoleText_of_location {d : Diagnostic} (h : d.severity.IsKnown)
    (hne : d.location ≠ []) (hlocation : ∀ c ∈ d.location, c ≠ '\\' ∧ c ≠ '[') :
    ∃ after : List (List Char),
      after.flatten = ": ".toList ++ d.problem.message ++ escapeEnd d.problem.message ∧
        d.consoleText = .ok (expandTabs (plainShown (d.location ++ ": ".toList) ++
          plainShown d.severity.name ++ after.flatMap plainShown) ++ ['\n']) := by
  have hfront : ∀ c ∈ d.location ++ ": ".toList, c ≠ '\\' ∧ c ≠ '[' :=
    List.forall_mem_append.mpr ⟨hlocation, by decide⟩
  have hmarkup : d.markup = (d.location ++ ": ".toList) ++ d.severityMarkup := by
    rw [markup_eq, escape_eq_self hlocation, Problem.located, if_neg (by simpa using hne)]
  obtain ⟨position', after, hpieces, hafter⟩ := piecesFrom_severityMarkup h
    (0 + (d.location ++ ": ".toList).length) ((d.location ++ ": ".toList).reverse ++ [])
  have hone : plainPiece ((d.location ++ ": ".toList).reverse ++ []).reverse =
      [d.location ++ ": ".toList].map .plain := by
    simp [plainPiece]
  rw [hone] at hpieces
  have hall := (piecesFrom_plain 0 [] d.severityMarkup hfront).trans hpieces
  rw [← hmarkup] at hall
  refine ⟨after, hafter, ?_⟩
  rw [consoleText_of_pieces h hall, List.flatMap_singleton]

def shownLine (n : Nat) : List Char :=
  if n = 100 then ['💯'] else if n = 1234 then ['🔢'] else ':' :: natText n ++ [':']

theorem natText_eq_iff {n m : Nat} : natText n = natText m ↔ n = m :=
  ⟨Numeral.toDigits_injective, congrArg natText⟩

theorem shown_natText (n : Nat) : Emoji.shown (natText n) = shownLine n := by
  have hdigits : ∀ c ∈ natText n, c.isDigit = true := fun _ => Numeral.isDigit_of_mem_digits
  have hhundred : natText 100 = "100".toList := by decide
  have hfigures : natText 1234 = "1234".toList := by decide
  rw [shownLine]
  split
  · rename_i hn
    rw [hn, hhundred]
    decide
  · rename_i hn
    split
    · rename_i hm
      rw [hm, hfigures]
      decide
    · rename_i hm
      rw [← natText_eq_iff, hhundred] at hn
      rw [← natText_eq_iff, hfigures] at hm
      rw [Emoji.shown, Emoji.picture?_eq_none hdigits hn hm, Option.getD_none]

theorem shownLine_eq_iff (n : Nat) :
    shownLine n = ':' :: natText n ++ [':'] ↔ n ≠ 100 ∧ n ≠ 1234 := by
  rw [shownLine]
  split
  · simp_all
  · split <;> simp_all

def IsWording (text : List Char) : Prop :=
  ∀ c ∈ text, c.isAlphanum = true ∨ c = '.' ∨ c = '/' ∨ c = ' '

instance (text : List Char) : Decidable (IsWording text) :=
  inferInstanceAs (Decidable (∀ c ∈ text, _))

def IsInert (c : Char) : Prop := c ≠ '\\' ∧ c ≠ '[' ∧ c ≠ ':' ∧ isControl c = false

instance (c : Char) : Decidable (IsInert c) := inferInstanceAs (Decidable (_ ∧ _))

theorem IsWording.isInert {text : List Char} (h : IsWording text) : ∀ c ∈ text, IsInert c := by
  intro c hc
  have hmarks : ∀ c ∈ ['.', '/', ' '], IsInert c := by decide
  rcases h c hc with hletter | hmark
  · have hascii : c.toNat < 128 := toNat_lt_of_isAsciiWord (by rw [isAsciiWord, hletter]; rfl)
    exact forall_ascii (p := fun c => c.isAlphanum = true → IsInert c) (by decide) hascii hletter
  · exact hmarks c (by simpa using hmark)

theorem toNat_lt_of_isDigit {c : Char} (h : c.isDigit = true) : c.toNat < 128 :=
  toNat_lt_of_isAsciiWord (by rw [isAsciiWord, Char.isAlphanum, h, Bool.or_true, Bool.true_or])

theorem isInert_of_isDigit {c : Char} (h : c.isDigit = true) : IsInert c :=
  forall_ascii (p := fun c => c.isDigit = true → IsInert c) (by decide) (toNat_lt_of_isDigit h) h

theorem isInert_natText (n : Nat) : ∀ c ∈ natText n, IsInert c :=
  fun _ hc => isInert_of_isDigit (Numeral.isDigit_of_mem_digits hc)

theorem isControl_shownLine (n : Nat) : ∀ c ∈ shownLine n, isControl c = false := by
  rw [shownLine]
  split
  · decide
  · split
    · decide
    · rw [List.cons_append, List.forall_mem_cons, List.forall_mem_append]
      exact ⟨by decide, fun c hc => (isInert_natText n c hc).2.2.2, by decide⟩

namespace Markup

theorem isPlain_of_isInert {text : List Char} (h : ∀ c ∈ text, c = ':' ∨ IsInert c)
    (hcolon : text.count ':' ≤ 1) : IsPlain text := by
  have hchars : ∀ c ∈ text, c ≠ '\\' ∧ isControl c = false := by
    intro c hc
    rcases h c hc with rfl | hinert
    · decide
    · exact ⟨hinert.1, hinert.2.2.2⟩
  refine ⟨fun hc => (hchars _ hc).1 rfl, ?_, Emoji.namesNone_of_count hcolon⟩
  intro c hc hcontrol
  rw [(hchars c hc).2] at hcontrol
  exact absurd hcontrol (by decide)

theorem isPlain_message {message : List Char} (h : ∀ c ∈ message, IsInert c) :
    IsPlain (": ".toList ++ message) := by
  apply isPlain_of_isInert
  · rw [List.forall_mem_append]
    exact ⟨by decide, fun c hc => Or.inr (h c hc)⟩
  · rw [List.count_append, List.count_eq_zero.mpr fun hc => (h _ hc).2.2.1 rfl]
    decide

theorem plainShown_location {file : List Char} (h : ∀ c ∈ file, IsInert c) (n : Nat) :
    plainShown (file ++ ':' :: natText n ++ ": ".toList) = file ++ shownLine n ++ [' '] := by
  have hcode : Emoji.IsCode (natText n) := by
    intro c hc
    have hdigit : c.isDigit = true := Numeral.isDigit_of_mem_digits hc
    exact forall_ascii (p := fun c => c.isDigit = true → Emoji.isCodeChar c = true) (by decide)
      (toNat_lt_of_isDigit hdigit) hdigit
  have hbackslash : '\\' ∉ file ++ ':' :: natText n ++ ": ".toList := by
    simp only [List.mem_append, List.mem_cons, not_or]
    exact ⟨⟨fun hc => (h _ hc).1 rfl, by decide, fun hc => (isInert_natText n _ hc).1 rfl⟩,
      by decide⟩
  have hreplace : Emoji.replace (file ++ ':' :: natText n ++ ": ".toList) =
      file ++ shownLine n ++ [' '] := by
    have hsplit : file ++ ':' :: natText n ++ ": ".toList =
        file ++ ':' :: (natText n ++ ':' :: [' ']) := by simp
    have hspace : Emoji.replace [' '] = [' '] := by
      rw [Emoji.replace_cons_of_ne _ (by decide), Emoji.replace]
    rw [hsplit, Emoji.replace_append_of_not_mem _ fun hc => (h _ hc).2.2.1 rfl,
      Emoji.replace_code _ hcode, shown_natText, hspace, List.append_assoc]
  rw [plainShown, dropBracketEscapes_eq_self hbackslash, hreplace, dropDevices_eq_self]
  intro c hc hcontrol
  simp only [List.mem_append, List.mem_singleton] at hc
  have hnot : isControl c = false := by
    rcases hc with (hc | hc) | rfl
    · exact (h c hc).2.2.2
    · exact isControl_shownLine n c hc
    · decide
  rw [hnot] at hcontrol
  exact absurd hcontrol (by decide)

end Markup

theorem decimal_natCast (n : Nat) : Numeral.decimal n = natText n := by
  simp [Numeral.decimal, natText]

theorem Severity.isInert_name {severity : Severity} (h : severity.IsKnown) :
    ∀ c ∈ severity.name, IsInert c := by
  cases severity with
  | other name => exact h.elim
  | _ => decide

namespace Diagnostic

def atLine (severity : Severity) (file message : List Char) (n : Nat) : Diagnostic :=
  ⟨severity, ⟨message, some file, some n⟩⟩

variable {severity : Severity} {file message : List Char} (n : Nat)

theorem location_atLine : (atLine severity file message n).location = file ++ ':' :: natText n := by
  rw [← decimal_natCast]
  rfl

theorem text_atLine : (atLine severity file message n).text =
    file ++ ':' :: natText n ++ ": ".toList ++ severity.name ++ ": ".toList ++ message := by
  rw [text_eq, location_atLine, if_neg (by simp)]
  simp [atLine]

/-- The line that a console shows for a diagnostic at a line of a file. -/
def lineOnConsole (severity : Severity) (file message : List Char) (n : Nat) : List Char :=
  file ++ shownLine n ++ ' ' :: severity.name ++ ": ".toList ++ message

theorem consoleText_atLine (hseverity : severity.IsKnown) (hfile : ∀ c ∈ file, IsInert c)
    (hmessage : ∀ c ∈ message, IsInert c) : (atLine severity file message n).consoleText =
      .ok (lineOnConsole severity file message n ++ ['\n']) := by
  have hplain : ∀ c ∈ (atLine severity file message n).location, c ≠ '\\' ∧ c ≠ '[' := by
    rw [location_atLine, List.forall_mem_append, List.forall_mem_cons]
    exact ⟨fun c hc => ⟨(hfile c hc).1, (hfile c hc).2.1⟩, by decide,
      fun c hc => ⟨(isInert_natText n c hc).1, (isInert_natText n c hc).2.1⟩⟩
  have hname : plainShown severity.name = severity.name := by
    apply plainShown_eq_self
    apply isPlain_of_isInert fun c hc => Or.inr (Severity.isInert_name hseverity c hc)
    rw [List.count_eq_zero.mpr fun hc => (Severity.isInert_name hseverity _ hc).2.2.1 rfl]
    exact Nat.zero_le 1
  obtain ⟨after, hafter, hshown⟩ :=
    exists_consoleText_of_location hseverity (by simp [location_atLine]) hplain
  have hback : after.flatMap plainShown = ": ".toList ++ message := by
    have hflat : after.flatten = ": ".toList ++ message := by
      rw [hafter, atLine, escapeEnd_eq_nil fun hc => (hmessage _ hc).1 rfl, List.append_nil]
    rw [flatMap_plainShown (hflat ▸ isPlain_message hmessage), hflat]
  have hline : file ++ shownLine n ++ [' '] ++ severity.name ++ (": ".toList ++ message) =
      lineOnConsole severity file message n := by simp [lineOnConsole]
  have htab : '\t' ∉ lineOnConsole severity file message n := by
    have hcontrol : ∀ c ∈ lineOnConsole severity file message n, isControl c = false := by
      simp only [lineOnConsole, List.forall_mem_append, List.forall_mem_cons]
      exact ⟨⟨⟨⟨fun c hc => (hfile c hc).2.2.2, isControl_shownLine n⟩, by decide,
        fun c hc => (Severity.isInert_name hseverity c hc).2.2.2⟩, by decide⟩,
        fun c hc => (hmessage c hc).2.2.2⟩
    intro hc
    exact absurd (hcontrol '\t' hc) (by decide)
  rw [hshown, location_atLine, plainShown_location hfile, hback]
  simp only [atLine, hname, hline, expandTabs_eq_self htab]

theorem lineOnConsole_eq_text_iff : lineOnConsole severity file message n =
    (atLine severity file message n).text ↔ n ≠ 100 ∧ n ≠ 1234 := by
  have hsplit : (atLine severity file message n).text =
      file ++ (':' :: natText n ++ [':']) ++ ' ' :: severity.name ++ ": ".toList ++ message := by
    simp [text_atLine]
  rw [hsplit, lineOnConsole, List.append_left_inj, List.append_left_inj, List.append_left_inj,
    List.append_right_inj, shownLine_eq_iff]

end Diagnostic

open Diagnostic in
theorem Report.add_atLine (report : Report) {severity : Severity} (hseverity : severity.IsKnown)
    {file message : List Char} (hfile : IsWording file) (hmessage : IsWording message) (n : Nat) :
    report.add (atLine severity file message n) =
        (.ok (), ⟨report.diagnostics ++ [atLine severity file message n],
          report.console ++ lineOnConsole severity file message n ++ ['\n']⟩) ∧
      (atLine severity file message n).text = file ++ ':' :: natText n ++ ": ".toList ++
        severity.name ++ ": ".toList ++ message ∧
      (lineOnConsole severity file message n = (atLine severity file message n).text ↔
        n ≠ 100 ∧ n ≠ 1234) := by
  refine ⟨?_, text_atLine n, lineOnConsole_eq_text_iff n⟩
  rw [Report.add, consoleText_atLine n hseverity hfile.isInert hmessage.isInert, List.append_assoc]

theorem Report.add_atLine_kept :
    let file := "dir/My File.swift".toList
    let message := "format 1.0 of 1234".toList
    let d := Diagnostic.atLine .note file message 1235
    d.severity.IsKnown ∧ IsWording file ∧ IsWording message ∧
      d.text = "dir/My File.swift:1235: note: format 1.0 of 1234".toList ∧
      ({} : Report).add d = (.ok (), ⟨[d], d.text ++ ['\n']⟩) := by
  intro file message d
  have hfile : IsWording file := by decide
  have hmessage : IsWording message := by decide
  have hknown : Severity.IsKnown .note := trivial
  obtain ⟨hadd, -, hiff⟩ := Report.add_atLine {} hknown hfile hmessage 1235
  rw [hiff.mpr (by decide)] at hadd
  exact ⟨hknown, hfile, hmessage, by decide, hadd⟩

theorem Report.hundredth_line_replaced :
    let file := "A.swift".toList
    let message := "x".toList
    let d := Diagnostic.atLine .error file message 100
    d.severity.IsKnown ∧ IsWording file ∧ IsWording message ∧
      d.text = "A.swift:100: error: x".toList ∧
      ({} : Report).add d = (.ok (), ⟨[d], "A.swift💯 error: x\n".toList⟩) ∧
      "A.swift💯 error: x\n".toList ≠ d.text ++ ['\n'] := by
  intro file message d
  refine ⟨trivial, by decide, by decide, by decide, ?_, by decide⟩
  decide +kernel

end EnumExport
