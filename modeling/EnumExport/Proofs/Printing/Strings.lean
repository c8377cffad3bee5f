import EnumExport.Proofs.Printing.Cases

namespace EnumExport

open Glyph

inductive LineText : List Char → Prop
  | nil : LineText []
  | escape {c : Char} {text : List Char} : c ≠ '\n' → LineText text → LineText ('\\' :: c :: text)
  | plain {c : Char} {text : List Char} : c ∉ ['"', '\\', '\n'] → LineText text →
      LineText (c :: text)

inductive StringLiteral where
  | line (inner : List Char) (isLineText : LineText inner)
  | block (inner : List Char) (noQuotes : ¬ Lexeme.blockQuotes <:+: inner)
      (notQuoteLast : inner.getLast? ≠ some '"')

namespace LineText

theorem head_ne_quote {text : List Char} (h : LineText text) : ∀ c ∈ text.head?, c ≠ '"' := by
  cases h with
  | nil => simp
  | escape => simp
  | plain hc => simp_all

theorem cutString_append {text : List Char} (h : LineText text) (rest : List Char) :
    Lexeme.cutString (text ++ '"' :: rest) = some (text, rest) := by
  induction h with
  | nil => simp [Lexeme.cutString]
  | escape hc _ ih => simp [Lexeme.cutString, hc, ih]
  | plain hc _ ih =>
    simp only [List.mem_cons, List.not_mem_nil, or_false, not_or] at hc
    obtain ⟨hquote, hbackslash, hline⟩ := hc
    simp [Lexeme.cutString, hquote, hbackslash, hline, ih]

end LineText

namespace Lexeme

theorem not_blockQuotes_prefix {c : Char} {inner : List Char} (h : ¬ blockQuotes <+: c :: inner)
    (hlast : (c :: inner).getLast? ≠ some '"') (rest : List Char) :
    ¬ blockQuotes <+: c :: (inner ++ rest) := by
  intro hquotes
  obtain ⟨rfl, htwo⟩ := List.cons_prefix_cons.mp hquotes
  cases inner with
  | nil => exact hlast rfl
  | cons d inner =>
    obtain ⟨rfl, hone⟩ := List.cons_prefix_cons.mp htwo
    cases inner with
    | nil => exact hlast rfl
    | cons e inner =>
      obtain ⟨rfl, -⟩ := List.cons_prefix_cons.mp hone
      exact h ⟨inner, rfl⟩

theorem cutAfter_blockQuotes {inner : List Char} (h : ¬ blockQuotes <:+: inner)
    (hlast : inner.getLast? ≠ some '"') (rest : List Char) :
    cutAfter blockQuotes (inner ++ (blockQuotes ++ rest)) = some (inner ++ blockQuotes, rest) := by
  induction inner with
  | nil => simp [blockQuotes, cutAfter]
  | cons c inner ih =>
    rw [List.infix_cons_iff, not_or] at h
    have hp : blockQuotes.isPrefixOf (c :: (inner ++ (blockQuotes ++ rest))) = false := by
      rw [Bool.eq_false_iff, ne_eq, List.isPrefixOf_iff_prefix]
      exact not_blockQuotes_prefix h.1 hlast _
    have hinner : inner.getLast? ≠ some '"' := by
      cases inner with
      | nil => simp
      | cons d inner => simpa using hlast
    simp [cutAfter, hp, ih h.2 hinner]

end Lexeme

namespace StringLiteral

def hiddenText : StringLiteral → List Char
  | line inner _ => inner
  | block inner _ _ => '"' :: '"' :: (inner ++ ['"', '"'])

variable (literal : StringLiteral)

def text : List Char := '"' :: (literal.hiddenText ++ ['"'])

def glyphs : List (Glyph Char) := ⟨'"', '"'⟩ :: (hidden literal.hiddenText ++ [⟨'"', '"'⟩])

def breaksLine : Bool := literal.hiddenText.contains '\n'

/-- What is read of the literal as a raw value: no more than the line that it begins on. -/
def firstLine : List Char := trimEnd (literal.text.takeWhile (· != '\n'))

theorem starts_text {rest : List Char} (hrest : ∀ c ∈ rest.head?, c ≠ '"') :
    Lexeme.Starts '"' (literal.hiddenText ++ '"' :: rest) (.string literal.hiddenText) rest := by
  cases literal with
  | line inner isLineText =>
    -- No three quotes are there, because only a quote behind two others would be the third.
    have hblock : Lexeme.blockString? (inner ++ '"' :: rest) = none := by
      rw [Lexeme.blockString?_eq_none_iff]
      intro tail htail
      cases inner with
      | nil =>
        have hhead := (List.cons.inj htail).2
        exact absurd rfl (hrest '"' (by rw [hhead]; rfl))
      | cons c inner =>
        exact absurd (List.cons.inj htail).1 (isLineText.head_ne_quote c rfl)
    exact .lineString hblock (isLineText.cutString_append rest)
  | block inner noQuotes notQuoteLast =>
    have hcut := Lexeme.cutAfter_blockQuotes noQuotes notQuoteLast rest
    have hpiece : inner ++ Lexeme.blockQuotes = inner ++ ['"', '"'] ++ ['"'] := by
      simp [Lexeme.blockQuotes]
    rw [hpiece] at hcut
    simpa [hiddenText, Lexeme.blockQuotes] using Lexeme.Starts.blockString hcut

theorem glyphs_text {rest : List Char} (hrest : ∀ c ∈ rest.head?, c ≠ '"') :
    EnumExport.glyphs (literal.text ++ rest) = literal.glyphs ++ EnumExport.glyphs rest := by
  have hnext := (literal.starts_text hrest).next_eq
  have htext : literal.text ++ rest = '"' :: (literal.hiddenText ++ '"' :: rest) := by simp [text]
  have hglyphs : (Lexeme.string literal.hiddenText).glyphs = literal.glyphs := by
    have hlength := length_blankOut literal.hiddenText
    simp [Lexeme.glyphs, Lexeme.masked, List.zipWith_append hlength, zipWith_blankOut, glyphs]
  rw [htext, glyphs_cons, hnext, hglyphs]

end StringLiteral

def ShowsStrings (gs : List (Glyph Char)) : Prop :=
  ∀ g ∈ gs, g.shown = '"' ∨ isBlank g.shown = true

theorem Division.crosses_of_showsStrings {gs : List (Glyph Char)} (h : ShowsStrings gs) :
    caseDivision.Crosses gs := by
  apply crosses_of_isPlain
  intro g hg
  rcases h g hg with hquote | hblank
  · rw [hquote]
    exact isPlain_of_not_mem isCoarse_caseDivision (by decide)
  · exact isPlain_caseDivision_of_isBlank hblank

theorem map_source_beforeEnd {gs : List (Glyph Char)}
    (h : ∀ g ∈ gs, endsStatement g.shown = (g.source == '\n')) :
    (beforeEnd gs).map Glyph.source = (gs.map Glyph.source).takeWhile (· != '\n') := by
  induction gs with
  | nil => rfl
  | cons g gs ih =>
    obtain ⟨hg, hgs⟩ := List.forall_mem_cons.mp h
    have hsame : (!endsStatement g.shown) = (g.source != '\n') := by rw [hg, bne]
    rw [beforeEnd, List.takeWhile_cons, List.map_cons, List.takeWhile_cons, hsame]
    split
    · rw [List.map_cons, ← ih hgs, beforeEnd]
    · rfl

theorem endsStatement_hidden (text : List Char) :
    ∀ g ∈ hidden text, endsStatement g.shown = (g.source == '\n') := by
  intro g hg
  obtain ⟨c, -, rfl⟩ := List.mem_map.mp hg
  by_cases hline : c = '\n'
  · simp only [hline, if_true]
    decide
  · simp only [hline, if_false, beq_false_of_ne hline]
    decide

theorem trimEnd_append {text trail : List Char} (h : ∀ c ∈ trail, isBlank c = true) :
    trimEnd (text ++ trail) = trimEnd text := by
  rw [trimEnd, List.reverse_append,
    List.dropWhile_append_of_pos fun c hc => h c (List.mem_reverse.mp hc), trimEnd]

theorem trimEnd_cons {c : Char} (hc : isBlank c = false) (text : List Char) :
    ∃ rest, trimEnd (c :: text) = c :: rest := by
  refine ⟨(text.reverse.dropWhile isBlank).reverse, ?_⟩
  rw [trimEnd, List.reverse_cons, dropWhile_append_cons _ _ hc]
  simp

theorem Expression.read_quote {lead : List Char} (hlead : ∀ c ∈ lead, isBlank c = true)
    (text : List Char) :
    read (lead ++ '"' :: text) = .ok (unsupported (trimEnd ('"' :: text))) := by
  have hquote : isBlank '"' = false := by decide
  have htrim : trim (lead ++ '"' :: text) = trimEnd ('"' :: text) := by
    rw [trim, trimStart, dropWhile_append_of_stop hlead (by simpa using hquote)]
  obtain ⟨rest, hrest⟩ := trimEnd_cons hquote text
  rw [read_eq, htrim, hrest]
  rfl

namespace StringLiteral

variable (literal : StringLiteral)

theorem showsStrings_glyphs : ShowsStrings literal.glyphs := by
  intro g hg
  rcases List.mem_cons.mp hg with rfl | hg
  · exact Or.inl rfl
  · rcases List.mem_append.mp hg with hg | hg
    · exact Or.inr (showsBlank_hidden _ g hg)
    · rw [List.mem_singleton.mp hg]
      exact Or.inl rfl

theorem endsStatement_glyphs :
    ∀ g ∈ literal.glyphs, endsStatement g.shown = (g.source == '\n') := by
  rw [glyphs]
  simp only [List.forall_mem_cons, List.forall_mem_append]
  exact ⟨by decide, endsStatement_hidden _, by decide, List.forall_mem_nil _⟩

theorem map_source_glyphs : literal.glyphs.map Glyph.source = literal.text := by
  simp [glyphs, text]

def onFirstLine : List (Glyph Char) := beforeEnd literal.glyphs

theorem map_source_onFirstLine :
    literal.onFirstLine.map Glyph.source = literal.text.takeWhile (· != '\n') := by
  rw [onFirstLine, map_source_beforeEnd literal.endsStatement_glyphs, map_source_glyphs]

theorem showsStrings_onFirstLine : ShowsStrings literal.onFirstLine :=
  fun g hg => literal.showsStrings_glyphs g ((prefix_beforeEnd _).subset hg)

theorem read_onFirstLine {lead trail : List Char} (hlead : ∀ c ∈ lead, isBlank c = true)
    (htrail : ∀ c ∈ trail, isBlank c = true) :
    Expression.read (lead ++ (literal.onFirstLine.map Glyph.source ++ trail)) =
      .ok (.unsupported literal.firstLine) := by
  have hcons : literal.text.takeWhile (· != '\n') =
      '"' :: (literal.hiddenText ++ ['"']).takeWhile (· != '\n') := by simp [text]
  rw [map_source_onFirstLine, firstLine, ← trimEnd_append htrail, hcons, List.cons_append,
    Expression.read_quote hlead]

theorem exists_endsStatement_hidden (h : literal.breaksLine = true) :
    ∃ g ∈ hidden literal.hiddenText, endsStatement g.shown = true := by
  have hmem : '\n' ∈ literal.hiddenText := by simpa [breaksLine] using h
  exact ⟨⟨'\n', '\n'⟩, List.mem_map.mpr ⟨'\n', hmem, rfl⟩, by decide⟩

theorem not_endsStatement_glyphs (h : literal.breaksLine = false) :
    ∀ g ∈ literal.glyphs, endsStatement g.shown = false := by
  have hnot : '\n' ∉ literal.text := by simpa [breaksLine, text] using h
  intro g hg
  rw [literal.endsStatement_glyphs g hg]
  apply beq_false_of_ne
  intro hline
  apply hnot
  rw [← hline, ← map_source_glyphs]
  exact List.mem_map_of_mem hg

theorem onFirstLine_of_not_breaksLine (h : literal.breaksLine = false) :
    literal.onFirstLine = literal.glyphs := by
  rw [onFirstLine, beforeEnd, List.takeWhile_eq_self_iff]
  intro g hg
  rw [literal.not_endsStatement_glyphs h g hg]
  rfl

theorem onFirstLine_of_breaksLine (h : literal.breaksLine = true) :
    literal.onFirstLine = ⟨'"', '"'⟩ :: beforeEnd (hidden literal.hiddenText) := by
  have hline : (hidden literal.hiddenText).dropWhile (fun g => !endsStatement g.shown) ≠ [] := by
    simpa using literal.exists_endsStatement_hidden h
  have hquote : endsStatement '"' = false := by decide
  simp [onFirstLine, beforeEnd, glyphs, hquote, takeWhile_append_of_dropWhile_ne_nil _ hline]

theorem crosses_glyphs (h : literal.breaksLine = false) :
    statementDivision.Crosses literal.glyphs := by
  apply Division.crosses_of_isPlain
  intro g hg
  rcases literal.showsStrings_glyphs g hg with hquote | hblank
  · rw [hquote]
    exact Division.isPlain_of_not_mem Division.isCoarse_statementDivision (by decide)
  · apply Division.isPlain_of_isBlank Division.isCoarse_statementDivision hblank
    intro hline
    have hends := literal.not_endsStatement_glyphs h g hg
    rw [hline] at hends
    exact absurd hends (by decide)

theorem startsWithJoint_reverse_glyphs (before : List (Glyph Char)) :
    startsWithJoint (literal.glyphs.reverse ++ before) = false := by
  have hreverse : literal.glyphs.reverse ++ before =
      ⟨'"', '"'⟩ :: ((hidden literal.hiddenText).reverse ++ (⟨'"', '"'⟩ :: before)) := by
    simp [glyphs]
  rw [hreverse, startsWithJoint_of_not_isBlank (by decide)]
  decide

theorem exists_caseClauses_of_breaksLine (h : literal.breaksLine = true)
    (before rest : List (Glyph Char)) :
    ∃ blanks, ShowsBlank blanks ∧
      caseClauses (statementDivision.partsFrom 0 before (literal.glyphs ++ rest)) =
        (afterCase? (before.reverse ++ literal.onFirstLine)).toList ++
          caseClauses (statementDivision.partsFrom 0 (⟨'"', '"'⟩ :: blanks) rest) := by
  have hquote : statementDivision.IsPlain '"' :=
    Division.isPlain_of_not_mem Division.isCoarse_statementDivision (by decide)
  have hjoint (gs : List (Glyph Char)) : startsWithJoint (⟨'"', '"'⟩ :: gs) = false := by
    rw [startsWithJoint_of_not_isBlank (by decide)]
    decide
  obtain ⟨blanks, hblanks, he⟩ := exists_caseClauses_of_gap
    (showsBlank_hidden literal.hiddenText).showsGap (hjoint before) (hjoint rest)
    (Or.inr (literal.exists_endsStatement_hidden h))
  refine ⟨blanks, hblanks, ?_⟩
  have hglyphs : literal.glyphs ++ rest =
      ⟨'"', '"'⟩ :: (hidden literal.hiddenText ++ (⟨'"', '"'⟩ :: rest)) := by simp [glyphs]
  rw [hglyphs, Division.partsFrom_of_isPlain hquote, he, Division.partsFrom_of_isPlain hquote,
    literal.onFirstLine_of_breaksLine h]
  simp

end StringLiteral

end EnumExport
