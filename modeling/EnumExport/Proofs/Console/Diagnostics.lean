import EnumExport.Proofs.Console.Escaping
import EnumExport.Report.Diagnostic
import Mathlib.Data.List.Forall2

namespace EnumExport

namespace Markup

theorem piecesFrom_plain (position : Nat) (plain : List Char) {text : List Char} (tail : List Char)
    (h : ∀ c ∈ text, c ≠ '\\' ∧ c ≠ '[') :
    piecesFrom position plain (text ++ tail) =
      piecesFrom (position + text.length) (text.reverse ++ plain) tail := by
  induction text generalizing position plain with
  | nil => rfl
  | cons c text ih =>
    obtain ⟨hb, ho⟩ := h c (List.mem_cons_self ..)
    rw [List.cons_append, piecesFrom_cons (match?_other _ hb ho),
      ih _ _ fun d hd => h d (List.mem_cons_of_mem _ hd)]
    simp [Nat.add_assoc, Nat.add_comm 1]

theorem piecesFrom_tag (position : Nat) (plain : List Char) {inner : List Char} (rest : List Char)
    (h : IsTagInside inner) :
    piecesFrom position plain ('[' :: inner ++ ']' :: rest) =
      plainPiece plain.reverse ++ .tag position inner ::
        piecesFrom (position + (inner.length + 2)) [] rest := by
  have hmatch := match?_tag 0 rest h
  simp only [backslashes, List.replicate_zero, List.nil_append] at hmatch
  have hlen : ('[' :: inner ++ ']' :: rest).length - rest.length = inner.length + 2 := by
    simp only [List.cons_append, List.length_cons, List.length_append]
    omega
  rw [piecesFrom_match hmatch, hlen]
  simp [matchPieces, plainPiece, backslashes]

theorem piecesFrom_message (position : Nat) (message : List Char) :
    ∃ after : List (List Char),
      piecesFrom position [] (": ".toList ++ escape message) = after.map .plain ∧
        after.flatten = ": ".toList ++ message ++ escapeEnd message := by
  have hcolon : ∀ c ∈ ": ".toList, c ≠ '\\' ∧ c ≠ '[' := by decide
  rw [piecesFrom_plain _ [] _ hcolon, ← List.append_nil (escape message)]
  obtain ⟨plains, position', plain', hrest, hflat⟩ := piecesFrom_escape
    (position + ": ".toList.length) (": ".toList.reverse ++ []) message neutral_nil
  obtain ⟨last, hlast, hback⟩ := exists_plainPiece plain'.reverse
  refine ⟨plains ++ last, ?_, ?_⟩
  · rw [hrest, piecesFrom_nil, hlast, List.map_append]
  · rw [List.flatten_append, hback, hflat]
    simp

theorem renderFrom_plains (place : Nat) (opened : List OpenTag) (plains : List (List Char))
    (rest : List Piece) :
    renderFrom place opened (plains.map .plain ++ rest) =
      (renderFrom (place + (plains.flatMap plainShown).length) opened rest).map
        fun styled => ⟨plains.flatMap plainShown ++ styled.text, styled.spans⟩ := by
  induction plains generalizing place with
  | nil =>
    simp only [List.map_nil, List.nil_append, List.flatMap_nil, List.length_nil, Nat.add_zero]
    cases renderFrom place opened rest <;> rfl
  | cons plain plains ih =>
    simp only [List.map_cons, List.cons_append, renderFrom, ih, List.flatMap_cons,
      List.length_append, Nat.add_assoc, List.append_assoc]
    cases renderFrom (place + ((plainShown plain).length + (plains.flatMap plainShown).length))
      opened rest <;> rfl

end Markup

open Markup

namespace Severity

def IsKnown : Severity → Prop
  | other _ => False
  | _ => True

theorem isTagInside_style {severity : Severity} (h : severity.IsKnown) :
    IsTagInside severity.style ∧ IsTagInside ('/' :: severity.style) := by
  have htag (c : Char) (text : List Char) (hc : opensTag c = true)
      (hin : ∀ d ∈ c :: text, isInside d = true) :
      IsTagInside (c :: text) ∧ IsTagInside ('/' :: c :: text) :=
    ⟨⟨c, text, rfl, hc, fun d hd => hin d (List.mem_cons_of_mem _ hd)⟩,
      ⟨'/', c :: text, rfl, by decide, hin⟩⟩
  cases severity with
  | error => exact htag _ _ (by decide) (by decide)
  | warning => exact htag _ _ (by decide) (by decide)
  | note => exact htag _ _ (by decide) (by decide)
  | other name => exact h.elim

theorem plain_name {severity : Severity} (h : severity.IsKnown) :
    ∀ c ∈ severity.name, c ≠ '\\' ∧ c ≠ '[' := by
  cases severity with
  | other name => exact h.elim
  | _ => decide

theorem styleName_style {severity : Severity} (h : severity.IsKnown) :
    styleName severity.style = .ok severity.style := by
  cases severity with
  | other name => exact h.elim
  | _ => decide +kernel

theorem lookUp_style {severity : Severity} (h : severity.IsKnown) :
    Style.lookUp severity.style = .ok () := by
  cases severity with
  | other name => exact h.elim
  | _ => decide +kernel

theorem splitParameters_style {severity : Severity} (h : severity.IsKnown) :
    splitParameters severity.style = (severity.style, []) ∧
      splitParameters ('/' :: severity.style) = ('/' :: severity.style, []) := by
  cases severity with
  | other name => exact h.elim
  | _ => decide

end Severity

theorem Markup.renderFrom_tag {style : List Char} (place position : Nat) (opened : List OpenTag)
    (rest : List Piece) (hslash : style.head? ≠ some '/')
    (hsplit : splitParameters style = (style, [])) (hname : styleName style = .ok style) :
    renderFrom place opened (.tag position style :: rest) =
      renderFrom place (⟨style, [], place⟩ :: opened) rest := by
  rw [renderFrom, hsplit]
  split
  · simp_all
  · rename_i name parameters _ heq
    obtain ⟨rfl, rfl⟩ := Prod.mk.inj heq
    rw [hname]
    rfl

theorem Markup.renderFrom_endTag {style : List Char} (place position start : Nat)
    (rest : List Piece) (hat : style.head? ≠ some '@') (htrim : trim style = style)
    (hne : style ≠ []) (hsplit : splitParameters ('/' :: style) = ('/' :: style, []))
    (hname : styleName style = .ok style) :
    renderFrom place [⟨style, [], start⟩] (.tag position ('/' :: style) :: rest) =
      (renderFrom place [] rest).map fun styled =>
        ⟨styled.text, ⟨start, place, style⟩ :: styled.spans⟩ := by
  have hopen : takeOpen position ('/' :: style) (trim style) [⟨style, [], start⟩] =
      .ok (⟨style, [], start⟩, []) := by
    simp [takeOpen, htrim, hne, hname, bind, Except.bind, pure, Except.pure]
  have hclose : close ⟨style, [], start⟩ place = .ok ⟨start, place, style⟩ := by
    simp [close, OpenTag.isHandler, hat, OpenTag.spanTo, OpenTag.style, pure, Except.pure]
  rw [renderFrom, hsplit]
  simp only [hopen, hclose, bind, Except.bind]
  cases renderFrom place [] rest <;> rfl

theorem Severity.renderFrom_name {severity : Severity} (h : severity.IsKnown)
    (place position position' : Nat) (rest : List Piece) :
    renderFrom place [] (.tag position severity.style :: .plain severity.name ::
        .tag position' ('/' :: severity.style) :: rest) =
      (renderFrom (place + (plainShown severity.name).length) [] rest).map fun styled =>
        ⟨plainShown severity.name ++ styled.text,
          ⟨place, place + (plainShown severity.name).length, severity.style⟩ :: styled.spans⟩ := by
  have hname := styleName_style h
  obtain ⟨hopen, hclose⟩ := splitParameters_style h
  have hstyle : severity.style.head? ≠ some '/' ∧ severity.style.head? ≠ some '@' ∧
      trim severity.style = severity.style ∧ severity.style ≠ [] := by
    cases severity with
    | other name => exact h.elim
    | _ => decide
  obtain ⟨hslash, hat, htrim, hne⟩ := hstyle
  rw [renderFrom_tag place position [] _ hslash hopen hname, renderFrom]
  simp only [renderFrom_endTag _ position' place rest hat htrim hne hclose hname]
  cases renderFrom (place + (plainShown severity.name).length) [] rest <;> rfl

namespace Diagnostic

def severityMarkup (d : Diagnostic) : List Char :=
  '[' :: d.severity.style ++ ']' :: (d.severity.name ++
    ('[' :: ('/' :: d.severity.style) ++ ']' :: (": ".toList ++ Markup.escape d.problem.message)))

theorem markup_eq (d : Diagnostic) :
    d.markup = Problem.located (Markup.escape d.location) d.severityMarkup := by
  simp [markup, severityMarkup]

theorem neutral_severityMarkup (d : Diagnostic) : Neutral (": ".toList ++ d.severityMarkup) := by
  have hin : isInside ':' = true ∧ isInside ' ' = true ∧ isInside '[' = false := by decide
  refine ⟨match?_other _ (by decide) (by decide), ?_, ?_⟩
  · intro c hc
    obtain rfl : ':' = c := by simpa using hc
    decide
  · simp [severityMarkup, firstBracket, hin]

theorem piecesFrom_severityMarkup {d : Diagnostic} (h : d.severity.IsKnown) (position : Nat)
    (plain : List Char) :
    ∃ (position' : Nat) (after : List (List Char)),
      piecesFrom position plain d.severityMarkup =
          plainPiece plain.reverse ++ .tag position d.severity.style :: .plain d.severity.name ::
            .tag position' ('/' :: d.severity.style) :: after.map .plain ∧
        after.flatten = ": ".toList ++ d.problem.message ++ escapeEnd d.problem.message := by
  obtain ⟨hopen, hclose⟩ := Severity.isTagInside_style h
  have hname : plainPiece d.severity.name = [.plain d.severity.name] := by
    cases hs : d.severity with
    | other name => simp [hs, Severity.IsKnown] at h
    | _ => rfl
  rw [severityMarkup, piecesFrom_tag position plain _ hopen,
    piecesFrom_plain _ [] _ (Severity.plain_name h), piecesFrom_tag _ _ _ hclose]
  obtain ⟨after, hafter, hflat⟩ := piecesFrom_message
    (position + (d.severity.style.length + 2) + d.severity.name.length +
      (('/' :: d.severity.style).length + 2)) d.problem.message
  rw [hafter, List.append_nil, List.reverse_reverse, hname]
  exact ⟨_, after, rfl, hflat⟩

theorem escape_eq_nil_iff {text : List Char} : Markup.escape text = [] ↔ text = [] := by
  constructor
  · intro h
    rw [escape_eq, List.append_eq_nil_iff] at h
    cases hm : match? text with
    | some m => simp [escapeTags_match hm] at h
    | none =>
      cases text with
      | nil => rfl
      | cons c text => simp [escapeTags_cons hm] at h
  · rintro rfl
    simp [escape_eq, escapeEnd, escapeTags_nil, endsInBackslash]

def shownLocation (d : Diagnostic) : List Char :=
  if d.location = [] then [] else d.location ++ escapeEnd d.location ++ ": ".toList

theorem pieces_markup {d : Diagnostic} (h : d.severity.IsKnown) :
    ∃ (before after : List (List Char)) (position position' : Nat),
      pieces d.markup = before.map .plain ++ .tag position d.severity.style ::
          .plain d.severity.name :: .tag position' ('/' :: d.severity.style) ::
            after.map .plain ∧
        before.flatten = d.shownLocation ∧
        after.flatten = ": ".toList ++ d.problem.message ++ escapeEnd d.problem.message := by
  rw [pieces, markup_eq, Problem.located, shownLocation]
  by_cases hl : d.location = []
  · rw [if_pos hl, if_pos (by simp [escape_eq_nil_iff.mpr hl])]
    obtain ⟨position', after, hpieces, hflat⟩ := piecesFrom_severityMarkup h 0 []
    exact ⟨[], after, 0, position', by simpa [plainPiece] using hpieces, rfl, hflat⟩
  · rw [if_neg hl, if_neg (by simpa using mt escape_eq_nil_iff.mp hl), List.append_assoc]
    obtain ⟨plains, position, plain, hrest, hlocation⟩ :=
      piecesFrom_escape 0 [] d.location (neutral_severityMarkup d)
    have hcolon : ∀ c ∈ ": ".toList, c ≠ '\\' ∧ c ≠ '[' := by decide
    rw [hrest, piecesFrom_plain _ _ _ hcolon]
    obtain ⟨position', after, hpieces, hflat⟩ :=
      piecesFrom_severityMarkup h (position + ": ".toList.length) (": ".toList.reverse ++ plain)
    obtain ⟨last, hlast, hback⟩ := exists_plainPiece (": ".toList.reverse ++ plain).reverse
    refine ⟨plains ++ last, after, position + ": ".toList.length, position', ?_, ?_, hflat⟩
    · rw [hpieces, hlast, List.map_append, List.append_assoc]
    · rw [List.flatten_append, hback, List.reverse_append, List.reverse_reverse,
        ← List.append_assoc, hlocation, List.reverse_nil, List.nil_append]

theorem consoleText_of_pieces {d : Diagnostic} (h : d.severity.IsKnown)
    {before after : List (List Char)} {position position' : Nat}
    (hpieces : pieces d.markup = before.map .plain ++ .tag position d.severity.style ::
      .plain d.severity.name :: .tag position' ('/' :: d.severity.style) :: after.map .plain) :
    d.consoleText = .ok (expandTabs (before.flatMap plainShown ++
      plainShown d.severity.name ++ after.flatMap plainShown) ++ ['\n']) := by
  have hlast (place : Nat) : renderFrom place [] (after.map .plain) =
      .ok ⟨after.flatMap plainShown, []⟩ := by
    have hrender := renderFrom_plains place [] after []
    rw [List.append_nil] at hrender
    simp [hrender, renderFrom, Except.map]
  have hrender : renderFrom 0 [] (pieces d.markup) =
      .ok ⟨before.flatMap plainShown ++ (plainShown d.severity.name ++ after.flatMap plainShown),
        [⟨0 + (before.flatMap plainShown).length, 0 + (before.flatMap plainShown).length +
          (plainShown d.severity.name).length, d.severity.style⟩]⟩ := by
    rw [hpieces, renderFrom_plains, Severity.renderFrom_name h, hlast]
    rfl
  have hlook (start stop : Nat) : (lookUpOrder [⟨start, stop, d.severity.style⟩]).forM
      (fun span => (Style.lookUp span.style).mapError MarkupError.numeral) = .ok () := by
    have hone : lookUpOrder [⟨start, stop, d.severity.style⟩] =
        [⟨start, stop, d.severity.style⟩] := by simp [lookUpOrder]
    rw [hone, List.forM, Severity.lookUp_style h]
    rfl
  rw [consoleText, shown, render, hrender]
  simp only [bind, Except.bind, hlook]
  rw [← List.append_assoc]
  rfl

theorem exists_consoleText {d : Diagnostic} (h : d.severity.IsKnown) :
    ∃ before after : List (List Char),
      before.flatten = d.shownLocation ∧
        after.flatten = ": ".toList ++ d.problem.message ++ escapeEnd d.problem.message ∧
        d.consoleText = .ok (expandTabs (before.flatMap plainShown ++
          plainShown d.severity.name ++ after.flatMap plainShown) ++ ['\n']) := by
  obtain ⟨before, after, position, position', hpieces, hbefore, hafter⟩ := pieces_markup h
  exact ⟨before, after, hbefore, hafter, consoleText_of_pieces h hpieces⟩

end Diagnostic

end EnumExport
