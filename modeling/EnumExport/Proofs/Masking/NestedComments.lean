import EnumExport.Proofs.Masking.Code
import EnumExport.Proofs.Masking.Seam
import EnumExport.Proofs.Masking.Solid
import EnumExport.Proofs.Text.Words

/-!
Nested comments: a block comment in which further ones are opened and closed, and how much of it is
taken for a comment. That is everything up to the first mark that closes one.
-/

namespace EnumExport

def openMark : List Char := ['/', '*']

def closeMark : List Char := ['*', '/']

/-- Text that closes the `depth` comments open at its start and every one that it opens. The marks
are found from left to right and do not overlap. -/
inductive PairsUp : Nat → List Char → Prop
  | nil : PairsUp 0 []
  | opens {depth : Nat} {text : List Char} :
      PairsUp (depth + 1) text → PairsUp depth ('/' :: '*' :: text)
  | closes {depth : Nat} {text : List Char} :
      PairsUp depth text → PairsUp (depth + 1) ('*' :: '/' :: text)
  | plain {depth : Nat} {c : Char} {text : List Char} :
      ¬ openMark <+: c :: text → ¬ closeMark <+: c :: text → PairsUp depth text →
        PairsUp depth (c :: text)

structure BlockComment where
  inner : List Char
  pairsUp : PairsUp 0 inner

def BlockComment.text (comment : BlockComment) : List Char :=
  openMark ++ (comment.inner ++ closeMark)

namespace PairsUp

variable {depth : Nat} {text : List Char}

theorem append_of_forall {front : List Char} (hfront : ∀ c ∈ front, c ≠ '/' ∧ c ≠ '*')
    (h : PairsUp depth text) : PairsUp depth (front ++ text) := by
  induction front with
  | nil => exact h
  | cons c front ih =>
    obtain ⟨⟨hslash, hstar⟩, hfront⟩ := List.forall_mem_cons.mp hfront
    apply PairsUp.plain
    · exact fun hmark => hslash (List.cons_prefix_cons.mp hmark).1.symm
    · exact fun hmark => hstar (List.cons_prefix_cons.mp hmark).1.symm
    · exact ih hfront

theorem closes_or_eq_zero (h : PairsUp depth text) : closeMark <:+: text ∨ depth = 0 := by
  induction h with
  | nil => exact .inr rfl
  | @opens depth text _ ih =>
    have hmore : text <:+: '/' :: '*' :: text := (List.suffix_append openMark text).isInfix
    exact ih.imp (·.trans hmore) fun h => absurd h (Nat.succ_ne_zero depth)
  | @closes _ text _ _ => exact .inl ⟨[], text, rfl⟩
  | @plain _ c text _ _ _ ih => exact ih.imp_left (·.trans (List.suffix_cons c text).isInfix)

theorem opens_or_pos (h : PairsUp depth text) (hclose : closeMark <:+: text) :
    openMark <:+: text ∨ 0 < depth := by
  induction h with
  | nil => simp [closeMark] at hclose
  | @opens _ text _ _ => exact .inl ⟨[], text, rfl⟩
  | @closes depth _ _ _ => exact .inr (Nat.succ_pos depth)
  | @plain _ c text _ hplain _ ih =>
    have hmore := (List.infix_cons_iff.mp hclose).resolve_left hplain
    exact (ih hmore).imp_left (·.trans (List.suffix_cons c text).isInfix)

theorem closes_of_opens (h : PairsUp depth text) (hopen : openMark <:+: text) :
    closeMark <:+: text := by
  induction h with
  | nil => simp [openMark] at hopen
  | @opens depth text hmore _ =>
    have hclose := hmore.closes_or_eq_zero.resolve_right (Nat.succ_ne_zero depth)
    exact hclose.trans (List.suffix_append openMark text).isInfix
  | @closes _ text _ _ => exact ⟨[], text, rfl⟩
  | @plain _ c text hplain _ _ ih =>
    have hmore := (List.infix_cons_iff.mp hopen).resolve_left hplain
    exact (ih hmore).trans (List.suffix_cons c text).isInfix

theorem closes_iff_opens (h : PairsUp 0 text) : closeMark <:+: text ↔ openMark <:+: text :=
  ⟨fun hclose => (h.opens_or_pos hclose).resolve_right (Nat.lt_irrefl 0), h.closes_of_opens⟩

theorem getLast?_of_not_closed {front inner : List Char}
    (h : PairsUp depth (front ++ '/' :: '*' :: inner)) (hclose : ¬ closeMark <:+: inner) :
    front.getLast? = some '*' := by
  generalize hsplit : front ++ '/' :: '*' :: inner = text at h
  induction h generalizing front with
  | nil => simp at hsplit
  | @opens depth text hmore ih =>
    match front with
    | [] =>
      obtain rfl : inner = text := by simpa using hsplit
      exact absurd (hmore.closes_or_eq_zero.resolve_right (Nat.succ_ne_zero depth)) hclose
    | [c] => simp at hsplit
    | c :: d :: front =>
      obtain ⟨rfl, rfl, hrest⟩ : c = '/' ∧ d = '*' ∧ front ++ '/' :: '*' :: inner = text := by
        simpa using hsplit
      obtain ⟨more, rfl⟩ := List.getLast?_eq_some_iff.mp (ih hrest)
      exact List.getLast?_eq_some_iff.mpr ⟨'/' :: '*' :: more, rfl⟩
  | @closes depth text hmore ih =>
    match front with
    | [] => simp at hsplit
    | [c] =>
      -- The slash of the closing mark is the one in question.
      obtain ⟨rfl, -⟩ := List.cons.inj hsplit
      rfl
    | c :: d :: front =>
      obtain ⟨rfl, rfl, hrest⟩ : c = '*' ∧ d = '/' ∧ front ++ '/' :: '*' :: inner = text := by
        simpa using hsplit
      obtain ⟨more, rfl⟩ := List.getLast?_eq_some_iff.mp (ih hrest)
      exact List.getLast?_eq_some_iff.mpr ⟨'*' :: '/' :: more, rfl⟩
  | @plain depth c text hopen _ _ ih =>
    cases front with
    | nil =>
      obtain ⟨rfl, rfl⟩ := List.cons.inj hsplit
      exact absurd ⟨inner, rfl⟩ hopen
    | cons d front =>
      obtain ⟨rfl, hrest⟩ := List.cons.inj hsplit
      obtain ⟨more, rfl⟩ := List.getLast?_eq_some_iff.mp (ih hrest)
      exact List.getLast?_eq_some_iff.mpr ⟨d :: more, rfl⟩

end PairsUp

theorem Lexeme.exists_of_cutAfter {mark text piece rest : List Char} (hmark : mark ≠ [])
    (h : cutAfter mark text = some (piece, rest)) :
    ∃ front, piece = front ++ mark ∧ ¬ mark <:+: front := by
  induction text generalizing piece with
  | nil => simp [cutAfter, hmark] at h
  | cons c text ih =>
    have htext := cutAfter_append h
    simp only [cutAfter] at h
    split at h
    · obtain ⟨rfl, -⟩ := Prod.mk.inj (Option.some.inj h)
      exact ⟨[], rfl, by simpa using hmark⟩
    · rename_i hnot
      obtain ⟨⟨tail, after⟩, htail, he⟩ := Option.map_eq_some_iff.mp h
      obtain ⟨rfl, rfl⟩ := Prod.mk.inj he
      obtain ⟨front, rfl, hfront⟩ := ih htail
      refine ⟨c :: front, rfl, fun hwithin => ?_⟩
      rcases List.infix_cons_iff.mp hwithin with hmark | hwithin
      · have hfront : c :: front <+: c :: text := ⟨mark ++ after, by rw [← htext]; simp⟩
        exact hnot (List.isPrefixOf_iff_prefix.mpr (hmark.trans hfront))
      · exact hfront hwithin

theorem Lexeme.cutAfter_closeMark {piece : List Char} (rest : List Char)
    (hfirst : ¬ closeMark <:+: piece) :
    cutAfter closeMark (piece ++ (closeMark ++ rest)) = some (piece ++ closeMark, rest) := by
  induction piece with
  | nil => rfl
  | cons c piece ih =>
    obtain ⟨hstart, hwithin⟩ := not_or.mp (mt List.infix_cons_iff.mpr hfirst)
    have hnot : ¬ closeMark.isPrefixOf (c :: (piece ++ (closeMark ++ rest))) = true := by
      rw [List.isPrefixOf_iff_prefix]
      intro hmark
      cases piece with
      | nil => simp [closeMark] at hmark
      | cons d piece =>
        apply hstart
        exact List.prefix_of_prefix_length_le hmark ⟨closeMark ++ rest, rfl⟩ (by simp [closeMark])
    rw [List.cons_append, cutAfter, if_neg hnot, ih hwithin]
    rfl

theorem isSolid_of_isBlank {text : List Char} (h : ∀ c ∈ text, isBlank c = true) : IsSolid text :=
  fun c hc => ⟨ne_of_holds (h c hc) (by decide), ne_of_holds (h c hc) (by decide)⟩

theorem glyphs_comment {piece : List Char} (rest : List Char) (hfirst : ¬ closeMark <:+: piece) :
    glyphs (openMark ++ (piece ++ closeMark) ++ rest) =
      glyphs (blankOut (openMark ++ (piece ++ closeMark)) ++ rest) := by
  have hsolid : IsSolid (blankOut (openMark ++ (piece ++ closeMark))) :=
    isSolid_of_isBlank fun c hc => isBlank_of_mem_blankOut hc
  have htext : openMark ++ (piece ++ closeMark) ++ rest =
      '/' :: '*' :: (piece ++ (closeMark ++ rest)) := by simp [openMark]
  have hnext := (Lexeme.Starts.blockComment (Lexeme.cutAfter_closeMark rest hfirst)).next_eq
  rw [glyphs_append_of_isSolid hsolid, htext, glyphs_cons, hnext, Lexeme.glyphs]
  simp only [Lexeme.masked, List.zipWith_self]
  rfl

structure BlockComment.CutsAt (comment : BlockComment) (piece back : List Char) : Prop where
  split : comment.inner ++ closeMark = piece ++ (closeMark ++ back)
  first : ¬ closeMark <:+: piece

namespace BlockComment

variable {comment : BlockComment} {piece back : List Char}

theorem exists_cutsAt (comment : BlockComment) : ∃ piece back, comment.CutsAt piece back := by
  have hsome : Lexeme.cutAfter closeMark (comment.inner ++ closeMark) ≠ none := by
    rw [Ne, Lexeme.cutAfter_eq_none_iff (by decide), not_not]
    exact (List.suffix_append _ _).isInfix
  obtain ⟨⟨cut, back⟩, hcut⟩ := Option.ne_none_iff_exists'.mp hsome
  obtain ⟨piece, rfl, hfirst⟩ := Lexeme.exists_of_cutAfter (by decide) hcut
  have hsplit := Lexeme.cutAfter_append hcut
  rw [List.append_assoc] at hsplit
  exact ⟨piece, back, hsplit.symm, hfirst⟩

namespace CutsAt

theorem text_eq (h : comment.CutsAt piece back) :
    comment.text = openMark ++ (piece ++ closeMark) ++ back := by
  rw [text, h.split, List.append_assoc, List.append_assoc]

theorem back_eq (h : comment.CutsAt piece back) :
    back = [] ∨ ∃ rest, back = rest ++ closeMark ∧
      comment.inner = piece ++ (closeMark ++ rest) := by
  have hsplit := h.split
  rw [← List.append_assoc] at hsplit
  rcases List.append_eq_append_iff.mp hsplit with ⟨middle, hfront, hclose⟩ | ⟨rest, hinner, hback⟩
  · match middle with
    | [] =>
      right
      rw [List.append_nil] at hfront
      exact ⟨[], hclose.symm, by rw [← hfront, List.append_nil]⟩
    | [c] =>
      -- The mark would have to end in a star.
      have hlast := congrArg List.getLast? hfront
      obtain ⟨rfl, -⟩ := List.cons.inj hclose
      simp [closeMark] at hlast
    | c :: d :: middle =>
      left
      obtain ⟨-, htail⟩ := List.cons.inj hclose
      obtain ⟨-, hnil⟩ := List.cons.inj htail
      exact (List.append_eq_nil_iff.mp hnil.symm).2
  · exact .inr ⟨rest, hback, by rw [hinner, List.append_assoc]⟩

theorem back_eq_nil_iff (h : comment.CutsAt piece back) :
    back = [] ↔ ¬ openMark <:+: comment.inner := by
  rw [← comment.pairsUp.closes_iff_opens]
  constructor
  · rintro rfl hclose
    have hsplit : comment.inner ++ closeMark = piece ++ closeMark := by
      rw [h.split, List.append_nil]
    exact h.first (List.append_cancel_right hsplit ▸ hclose)
  · intro hnone
    rcases h.back_eq with hnil | ⟨rest, -, hinner⟩
    · exact hnil
    · exact absurd ⟨piece, rest, by rw [hinner, List.append_assoc]⟩ hnone

end CutsAt

end BlockComment

def EndsInComment (text : List Char) : Prop :=
  ∃ before inner, text = before ++ (openMark ++ (inner ++ closeMark)) ∧
    ¬ closeMark <:+: inner ∧ before.getLast? ≠ some '*'

theorem EndsInComment.append_left {text front : List Char} (h : EndsInComment text)
    (hfront : text.head? = some '/' → front.getLast? ≠ some '*') :
    EndsInComment (front ++ text) := by
  obtain ⟨before, inner, rfl, hinner, hbefore⟩ := h
  refine ⟨front ++ before, inner, by simp, hinner, ?_⟩
  cases before with
  | nil =>
    rw [List.append_nil]
    exact hfront rfl
  | cons c before => rwa [List.getLast?_append_cons]

namespace Lexeme

variable {front more text : List Char}

theorem exists_behind_lineComment (htext : front ++ more = '/' :: '/' :: text)
    (hmore : '\n' ∉ more) :
    text.dropWhile (· != '\n') = [] ∨ ∃ behind,
      front = ('/' :: '/' :: text.takeWhile (· != '\n')) ++ '\n' :: behind ∧
        '\n' :: behind ++ more = text.dropWhile (· != '\n') := by
  have hsplit := List.takeWhile_append_dropWhile (p := (· != '\n')) (l := text)
  cases hrest : text.dropWhile (· != '\n') with
  | nil => exact .inl rfl
  | cons d tail =>
    obtain rfl : d = '\n' := by
      have hstop := List.head?_dropWhile_not (· != '\n') text
      simpa [hrest] using hstop
    have hline : front ++ more =
        ('/' :: '/' :: text.takeWhile (· != '\n')) ++ '\n' :: tail := by
      rw [htext, ← hrest, List.cons_append, List.cons_append, hsplit]
    rcases append_eq_append_cons hline with ⟨behind, hfront, hback⟩ | ⟨behind, -, hback⟩
    · exact .inr ⟨behind, hfront, by rw [hback, List.cons_append]⟩
    · exact absurd (by simp [hback]) hmore

theorem exists_behind_blockComment {piece rest : List Char}
    (htext : front ++ more = '/' :: '*' :: text) (hmore : '/' ∉ more)
    (hcut : cutAfter closeMark text = some (piece, rest)) :
    ∃ behind, front = ('/' :: '*' :: piece) ++ behind ∧ behind ++ more = rest := by
  obtain ⟨inner, rfl, -⟩ := exists_of_cutAfter (by decide) hcut
  have hclosed : front ++ more = ('/' :: '*' :: inner ++ ['*']) ++ '/' :: rest := by
    rw [htext, ← cutAfter_append hcut]
    simp [closeMark]
  rcases append_eq_append_cons hclosed with ⟨behind, hfront, hback⟩ | ⟨behind, -, hback⟩
  · exact ⟨behind, by simp [hfront, closeMark], hback.symm⟩
  · exact absurd (by simp [hback]) hmore

end Lexeme

theorem hidden_or_endsInComment {p : Char → Bool} (hp : ∀ c ∈ ['/', '*', '"'], p c = false)
    {front more : List Char} (hend : front.getLast? = some '/') (hslash : '/' ∉ more)
    (hline : '\n' ∉ more)
    (hseen : ∀ c ∈ (mask false (front ++ more)).take front.length, p c = true) :
    (∀ c ∈ (mask false (front ++ more)).drop front.length, isBlank c = true) ∨
      EndsInComment front := by
  generalize htext : front ++ more = text at hseen ⊢
  induction text using lexemes.induct generalizing front with
  | case1 =>
    obtain ⟨rfl, -⟩ := List.append_eq_nil_iff.mp htext
    simp at hend
  | case2 c text ih =>
    obtain ⟨front, rfl⟩ : ∃ tail, front = c :: tail := by
      cases front with
      | nil => simp at hend
      | cons d front => exact ⟨front, by rw [(List.cons.inj htext).1]⟩
    have hstarts := Lexeme.next_starts c text
    rw [mask_cons] at hseen ⊢
    generalize Lexeme.next c text = found at hstarts hseen ih ⊢
    obtain ⟨lexeme, rest⟩ := found
    have hlength := lexeme.length_masked false
    -- Behind a lexeme that the front goes past, the same holds of what is left of the front.
    have step (behind : List Char) (hfront : c :: front = lexeme.written ++ behind)
        (hrest : behind ++ more = rest) (hbehind : behind.getLast? = some '/')
        (hlast : behind.head? = some '/' → lexeme.written.getLast? ≠ some '*') :
        (∀ d ∈ (lexeme.masked false ++ mask false rest).drop (c :: front).length,
          isBlank d = true) ∨ EndsInComment (c :: front) := by
      rw [hfront, List.length_append, ← hlength, List.take_length_add_append] at hseen
      rw [hfront, List.length_append, ← hlength, List.drop_length_add_append]
      have hseen' : ∀ d ∈ (mask false rest).take behind.length, p d = true :=
        fun d hd => hseen d (List.mem_append_right _ hd)
      exact (ih hbehind hrest hseen').imp_right (·.append_left hlast)
    cases hstarts with
    | code hhidden =>
      have hc : p c = true := hseen c (by simp [Lexeme.masked])
      have hplain : c ≠ '/' := ne_of_holds hc (hp '/' (by simp))
      have hstar : c ≠ '*' := ne_of_holds hc (hp '*' (by simp))
      have hne : front ≠ [] := by
        rintro rfl
        exact hplain (Option.some.inj hend)
      obtain ⟨d, front, rfl⟩ := List.exists_cons_of_ne_nil hne
      apply step (d :: front) rfl (List.cons.inj htext).2
      · rwa [List.getLast?_cons_cons] at hend
      · exact fun _ h => hstar (Option.some.inj h)
    | blockString hcut =>
      have hquote := hseen '"' (by simp [Lexeme.masked])
      simp [hp '"' (by simp)] at hquote
    | lineString hblock hcut =>
      have hquote := hseen '"' (by simp [Lexeme.masked])
      simp [hp '"' (by simp)] at hquote
    | lineComment =>
      rcases Lexeme.exists_behind_lineComment htext hline with hnil | ⟨behind, hfront, hrest⟩
      · left
        intro d hd
        have hmem := List.mem_of_mem_drop hd
        rw [hnil, mask_nil, List.append_nil] at hmem
        exact isBlank_of_mem_blankOut hmem
      · apply step ('\n' :: behind) hfront hrest
        · rwa [hfront, List.getLast?_append_cons] at hend
        · simp
    | @blockComment text piece rest hcut =>
      obtain ⟨behind, hfront, hrest⟩ := Lexeme.exists_behind_blockComment htext hslash hcut
      obtain ⟨inner, rfl, hinner⟩ := Lexeme.exists_of_cutAfter (by decide) hcut
      cases behind with
      | nil => exact .inr ⟨[], inner, by simp [hfront, openMark, closeMark], hinner, by simp⟩
      | cons d behind =>
        apply step (d :: behind) hfront hrest
        · rwa [hfront, List.getLast?_append_cons] at hend
        · intro _
          have hlast : (Lexeme.comment ('*' :: (inner ++ ['*', '/']))).written =
              ('/' :: '*' :: inner ++ ['*']) ++ ['/'] := by simp [Lexeme.written]
          rw [hlast, List.getLast?_concat]
          decide

end EnumExport
