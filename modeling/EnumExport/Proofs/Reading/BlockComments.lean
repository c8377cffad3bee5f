import EnumExport.Proofs.Masking.NestedComments
import EnumExport.Proofs.Printing.Frames
import EnumExport.Proofs.Printing.RoundTrip
import EnumExport.Proofs.Reading.Spelling

/-!
Block comments in a text that is read: one that holds no further comment is hidden wherever it
stands. One that does shows what is behind its first closing mark, and a declaration that is put
around it is read with another name or none.
-/

namespace EnumExport

open Glyph

def ReadsAlike (marker : List Char) (file : Option (List Char)) (text other : List Char) : Prop :=
  ∀ above below, EndsInCode above →
    readSource marker file (above ++ (text ++ below)) =
      readSource marker file (above ++ (other ++ below))

theorem readsAlike_of_glyphs {marker : List Char} {file : Option (List Char)}
    {text other : List Char} (h : ∀ below, glyphs (text ++ below) = glyphs (other ++ below)) :
    ReadsAlike marker file text other := by
  intro above below habove
  rw [readSource, readSource, habove.glyphs_append, habove.glyphs_append, h]

theorem BlockComment.CutsAt.readsAlike {comment : BlockComment} {piece back : List Char}
    (h : comment.CutsAt piece back) (marker : List Char) (file : Option (List Char)) :
    ReadsAlike marker file comment.text
      (blankOut (openMark ++ (piece ++ closeMark)) ++ back) := by
  apply readsAlike_of_glyphs
  intro below
  rw [h.text_eq, List.append_assoc _ back, List.append_assoc _ back]
  exact glyphs_comment (back ++ below) h.first

theorem header?_enumKeyword (rest : List (Glyph Char)) :
    header? (⟨'\n', '\n'⟩ :: (solid "enum".toList ++ ⟨'\n', '\n'⟩ :: rest)) =
      (spanName? isQualified (skipBlanks rest)).map fun (name, rest) => ⟨.enum, name, rest⟩ :=
  headerItems?_enumKeyword (by decide) (by decide) rest

def longName (n : Nat) : Identifier where
  first := 'z'
  more := List.replicate n 'z'
  isNameStart_first := by decide
  isWord_more := by
    intro c hc
    rw [List.eq_of_mem_replicate hc]
    decide

theorem longName_text (n : Nat) : (longName n).text = List.replicate (n + 1) 'z' := rfl

def enumAbove (marker : Identifier) : List Char :=
  '@' :: (marker.text ++ '\n' :: ("enum".toList ++ ['\n']))

def enumBelow (n : Nat) : List Char := (longName n).text ++ ['{', '}']

theorem isSolid_enumAbove (marker : Identifier) : IsSolid (enumAbove marker) := by
  have henum : IsSolid "enum".toList := by unfold IsSolid; decide
  have hkeyword : IsSolid ('\n' :: ("enum".toList ++ ['\n'])) :=
    .cons (by decide) (henum.append (.cons (by decide) isSolid_nil))
  exact .cons (by decide) ((isSolid_identifier marker).append hkeyword)

theorem endsInCode_enumAbove (marker : Identifier) : EndsInCode (enumAbove marker) := by
  constructor
  · right
    exact ⟨'@' :: (marker.text ++ '\n' :: "enum".toList), by simp [enumAbove]⟩
  · have hsolid := isSolid_enumAbove marker
    rw [LeavesNothingOpen, mask_of_isSolid _ hsolid]
    constructor
    · intro hmark
      exact (hsolid '/' (hmark.subset (by decide))).2 rfl
    · intro hmark
      exact (hsolid '"' (hmark.subset (by decide))).1 rfl

section Blanked

variable {gap : List Char}

theorem plain_opening (hgap : ∀ c ∈ gap, isBlank c = true) (n : Nat) :
    ∀ c ∈ '\n' :: ("enum".toList ++ '\n' :: (gap ++ (longName n).text)),
      c ≠ '"' ∧ c ≠ '/' ∧ c ≠ '@' := by
  have hblank {c : Char} (h : isBlank c = true) : c ≠ '"' ∧ c ≠ '/' ∧ c ≠ '@' :=
    ⟨ne_of_holds h (by decide), ne_of_holds h (by decide), ne_of_holds h (by decide)⟩
  have hword {c : Char} (h : isWord c = true) : c ≠ '"' ∧ c ≠ '/' ∧ c ≠ '@' :=
    ⟨ne_of_holds h (by decide), ne_of_holds h (by decide), ne_of_holds h (by decide)⟩
  simp only [List.forall_mem_append, List.forall_mem_cons]
  exact ⟨by decide, by decide, by decide, fun c hc => hblank (hgap c hc),
    fun c hc => hword ((longName n).isWord_text c hc)⟩

theorem header?_opening (hgap : ∀ c ∈ gap, isBlank c = true) (n : Nat) :
    header? (solid ('\n' :: ("enum".toList ++ '\n' :: (gap ++ (longName n).text)) ++ ['{'])) =
      some ⟨.enum, solid (longName n).text, [⟨'{', '{'⟩]⟩ := by
  have hends : EndsName isQualified [(⟨'{', '{'⟩ : Glyph Char)] :=
    forall_mem_head?_cons [] (by decide)
  have hblank : ShowsBlank (solid gap) := List.forall_mem_map.mpr hgap
  have hsplit : solid ('\n' :: ("enum".toList ++ '\n' :: (gap ++ (longName n).text)) ++ ['{']) =
      ⟨'\n', '\n'⟩ :: (solid "enum".toList ++
        ⟨'\n', '\n'⟩ :: (solid gap ++ (solid (longName n).text ++ [⟨'{', '{'⟩]))) := by
    simp only [solid_cons, solid_append, solid_nil, List.cons_append, List.append_assoc]
  rw [hsplit, header?_enumKeyword, skipBlanks_append_of_showsBlank hblank, skipBlanks_identifier,
    spanName?_identifier allowsWords_isQualified _ hends]
  rfl

def gapFrame (marker : Identifier) (hgap : ∀ c ∈ gap, isBlank c = true) (n : Nat) : Frame where
  marker := marker
  above := []
  opening := '\n' :: ("enum".toList ++ '\n' :: (gap ++ (longName n).text))
  below := []
  header := ⟨.enum, solid (longName n).text, [⟨'{', '{'⟩]⟩
  isSolid_above := isSolid_nil
  isSolid_opening := by
    intro c hc
    obtain ⟨hquote, hslash, -⟩ := plain_opening hgap n c hc
    exact ⟨hquote, hslash⟩
  unmarked_above := rfl
  unmarked_opening :=
    Unmarked.of_forall (List.forall_mem_map.mpr fun c hc => (plain_opening hgap n c hc).2.2)
  unmarked_below := by
    rw [glyphs_nil]
    rfl
  header?_opening := header?_opening hgap n
  brace_opening := rfl

theorem readSource_blanked (marker : Identifier) (file : Option (List Char))
    (hgap : ∀ c ∈ gap, isBlank c = true) (n : Nat) :
    readSource marker.text file (enumAbove marker ++ (gap ++ enumBelow n)) =
      .ok [⟨.enum, (longName n).text, [], file, some 1⟩] := by
  have htext : enumAbove marker ++ (gap ++ enumBelow n) = (gapFrame marker hgap n).text [] := by
    simp [enumAbove, enumBelow, Frame.text, Frame.front, gapFrame]
  have hread := (gapFrame marker hgap n).readSource_solid file isSolid_nil rfl .nil
  rw [htext]
  refine hread.trans ?_
  have hnone : caseElements (solid []) = [] := by decide +kernel
  have hname := unquotedText_identifier (longName n)
  simp only [hnone, Frame.declaration, gapFrame, hname]
  rfl

end Blanked

theorem line_pos_of_mem_occurrences {marker : List Char} {gs : List (Glyph Char)}
    {found : Nat × List (Glyph Char)} (h : found ∈ occurrences marker 1 gs) : 0 < found.1 := by
  have hshift := occurrences_add marker 0 1 gs
  rw [Nat.zero_add] at hshift
  rw [hshift] at h
  obtain ⟨earlier, -, rfl⟩ := List.mem_map.mp h
  exact Nat.succ_pos earlier.1

theorem exists_header_of_line {marker : Identifier} {file : Option (List Char)}
    {source : List Char} {rest : List (Glyph Char)} {declarations : List Declaration}
    {declaration : Declaration}
    (hglyphs : glyphs source = ⟨'@', '@'⟩ :: (solid marker.text ++ ⟨'\n', '\n'⟩ :: rest))
    (hread : readSource marker.text file source = .ok declarations)
    (hmem : declaration ∈ declarations) (hline : declaration.line = some 1) :
    ∃ header, header? (⟨'\n', '\n'⟩ :: rest) = some header ∧
      declaration.name = unquotedText header.name := by
  rw [readSource, hglyphs] at hread
  obtain ⟨⟨line, header⟩, hheader, hone⟩ := exists_mem_of_mem_mapM hread hmem
  obtain ⟨inside, cases, -, -, rfl⟩ := readDeclaration_eq_ok_iff.mp hone
  obtain ⟨⟨line', gs⟩, hoccurrence, hfound⟩ := List.mem_filterMap.mp hheader
  obtain ⟨header', hheader', he⟩ := Option.map_eq_some_iff.mp hfound
  obtain ⟨rfl, rfl⟩ := Prod.mk.inj he
  have hfirst : line' = 1 := by simpa using hline
  have hstop : ∀ g ∈ ((⟨'\n', '\n'⟩ : Glyph Char) :: rest).head?, Glyph.isWord g = false :=
    forall_mem_head?_cons rest (by decide)
  obtain ⟨hspells, hafter⟩ := spells_identifier marker hstop
  rw [occurrences, if_neg (by decide), if_pos ⟨rfl, hspells⟩, hafter] at hoccurrence
  rcases List.mem_cons.mp hoccurrence with he | hlater
  · obtain ⟨-, rfl⟩ := Prod.mk.inj he
    exact ⟨header', hheader', rfl⟩
  · have hnone : occurrences marker.text 1 (solid marker.text) = [] := by
      apply occurrences_eq_nil
      intro g hg
      exact ne_of_holds (isWord_solid_identifier marker g hg) (by decide)
    rw [occurrences_append_line _ _ _ _ rfl, hnone, List.map_nil, List.nil_append] at hlater
    obtain ⟨found, hlow, he⟩ := List.mem_map.mp hlater
    obtain ⟨hmoved, -⟩ := Prod.mk.inj he
    have hpos := line_pos_of_mem_occurrences hlow
    omega

theorem length_and_shown_of_unquotedText {name : List (Glyph Char)} {n : Nat}
    (h : unquotedText name = (longName n).text) :
    n < (text name).length ∧ ∀ c ∈ text name, c = 'z' ∨ c = tick := by
  rw [longName_text] at h
  constructor
  · have hlength := congrArg List.length h
    rw [unquotedText, Glyph.text, List.length_map, List.length_replicate] at hlength
    have hle := List.length_filter_le (!·.isTick) name
    rw [Glyph.text, List.length_map]
    omega
  · intro c hc
    obtain ⟨g, hg, rfl⟩ := List.mem_map.mp hc
    cases htick : g.isTick with
    | true => exact .inr (beq_iff_eq.mp htick)
    | false =>
      have hmem : g.shown ∈ unquotedText name :=
        List.mem_map_of_mem (List.mem_filter.mpr ⟨hg, by rw [htick]; rfl⟩)
      rw [h] at hmem
      exact .inl (List.eq_of_mem_replicate hmem)

theorem exists_mask_of_spanName? {more : Glyph Char → Bool} {source : List Char}
    {name rest : List (Glyph Char)}
    (h : spanName? more (skipBlanks (glyphs source)) = some (name, rest)) :
    ∃ blanks, mask false source = blanks ++ text name ++ text rest ∧
      ∀ c ∈ blanks, isBlank c = true := by
  refine ⟨text ((glyphs source).takeWhile Glyph.isBlank), ?_, ?_⟩
  · have hsplit := List.takeWhile_append_dropWhile (p := Glyph.isBlank) (l := glyphs source)
    rw [← skipBlanks, ← spanName?_append_eq h] at hsplit
    have htexts := congrArg Glyph.text hsplit
    rw [← map_shown_glyphs]
    simpa [Glyph.text] using htexts.symm
  · intro c hc
    obtain ⟨g, hg, rfl⟩ := List.mem_map.mp hc
    exact List.mem_takeWhile_imp (p := Glyph.isBlank) hg

theorem not_mem_enumBelow {c : Char} (n : Nat) (h : c ∉ ['z', '{', '}']) : c ∉ enumBelow n := by
  intro hmem
  apply h
  rw [enumBelow, longName_text] at hmem
  rcases List.mem_append.mp hmem with hz | hbraces
  · rw [List.eq_of_mem_replicate hz]
    exact List.mem_cons_self ..
  · exact List.mem_cons_of_mem _ hbraces

theorem endsInComment_of_named {back : List Char} {n : Nat} {name rest : List (Glyph Char)}
    (hend : back.getLast? = some '/') (hlong : back.length ≤ n)
    (hspan : spanName? isQualified (skipBlanks (glyphs (back ++ enumBelow n))) = some (name, rest))
    (hname : unquotedText name = (longName n).text) : EndsInComment back := by
  obtain ⟨hlength, hshown⟩ := length_and_shown_of_unquotedText hname
  obtain ⟨blanks, hmask, hblanks⟩ := exists_mask_of_spanName? hspan
  have hseen : ∀ c ∈ (mask false (back ++ enumBelow n)).take back.length,
      (isBlank c || c == 'z' || c == tick) = true := by
    intro c hc
    have hle : back.length ≤ (blanks ++ text name).length := by
      rw [List.length_append]
      omega
    rw [hmask, List.take_append_of_le_length hle] at hc
    rcases List.mem_append.mp (List.mem_of_mem_take hc) with hc | hc
    · simp [hblanks c hc]
    · rcases hshown c hc with rfl | rfl <;> decide
  rcases hidden_or_endsInComment (by decide) hend (not_mem_enumBelow n (by decide))
    (not_mem_enumBelow n (by decide)) hseen with hhidden | hends
  · -- The last letter of the name would be hidden with the rest of its line.
    obtain ⟨front, c, hfront⟩ : ∃ front c, text name = front ++ [c] := by
      have hne : text name ≠ [] := List.ne_nil_of_length_pos (Nat.zero_lt_of_lt hlength)
      exact ⟨_, _, (List.dropLast_append_getLast hne).symm⟩
    have hle : back.length ≤ (blanks ++ front).length := by
      rw [hfront, List.length_append, List.length_singleton] at hlength
      rw [List.length_append]
      omega
    have hshape : mask false (back ++ enumBelow n) = (blanks ++ front) ++ c :: text rest := by
      rw [hmask, hfront]
      simp
    have hblank : isBlank c = true := by
      apply hhidden
      rw [hshape, List.drop_append_of_le_length hle]
      simp
    rcases hshown c (by simp [hfront]) with rfl | rfl <;> exact absurd hblank (by decide)
  · exact hends

namespace BlockComment.CutsAt

variable {comment : BlockComment} {piece back : List Char}

theorem not_endsInComment (h : comment.CutsAt piece back) : ¬ EndsInComment back := by
  rintro ⟨before, last, hsplit, hclose, hbefore⟩
  have hinner : comment.inner ++ closeMark =
      ((piece ++ (closeMark ++ before)) ++ '/' :: '*' :: last) ++ closeMark := by
    rw [h.split, hsplit]
    simp [openMark]
  have hpairs := comment.pairsUp
  rw [List.append_cancel_right hinner] at hpairs
  have hstar := hpairs.getLast?_of_not_closed hclose
  cases before with
  | nil => simp [closeMark] at hstar
  | cons c before =>
    rw [← List.append_assoc, List.getLast?_append_cons] at hstar
    exact hbefore hstar

theorem back_eq_nil_of_readsAlike (h : comment.CutsAt piece back) {marker : Identifier}
    {file : Option (List Char)}
    (halike : ReadsAlike marker.text file comment.text (blankOut comment.text)) : back = [] := by
  rcases h.back_eq with hnil | ⟨inner, hback, -⟩
  · exact hnil
  -- An enum around the comment is read with a name behind the blanks, so with that name it would
  -- have to be read around what is left over of the comment.
  have hcode := endsInCode_enumAbove marker
  have hread := halike _ (enumBelow back.length) hcode
  rw [h.readsAlike _ _ _ _ hcode,
    readSource_blanked marker file fun c hc => isBlank_of_mem_blankOut hc] at hread
  have htaken : ∀ c ∈ blankOut (openMark ++ (piece ++ closeMark)), isBlank c = true :=
    fun c hc => isBlank_of_mem_blankOut hc
  generalize blankOut (openMark ++ (piece ++ closeMark)) = taken at hread htaken
  have hglyphs : glyphs (enumAbove marker ++ (taken ++ back ++ enumBelow back.length)) =
      ⟨'@', '@'⟩ :: (solid marker.text ++ ⟨'\n', '\n'⟩ :: (solid "enum".toList ++
        ⟨'\n', '\n'⟩ :: (solid taken ++ glyphs (back ++ enumBelow back.length)))) := by
    rw [glyphs_append_of_isSolid (isSolid_enumAbove marker), List.append_assoc taken,
      glyphs_append_of_isSolid (isSolid_of_isBlank htaken)]
    simp [enumAbove]
  obtain ⟨header, hheader, hname⟩ :=
    exists_header_of_line hglyphs hread (List.mem_singleton.mpr rfl) rfl
  have hblank : ShowsBlank (solid taken) := List.forall_mem_map.mpr htaken
  rw [header?_enumKeyword, skipBlanks_append_of_showsBlank hblank] at hheader
  obtain ⟨⟨name, rest⟩, hspan, rfl⟩ := Option.map_eq_some_iff.mp hheader
  have hend : back.getLast? = some '/' := by
    rw [hback]
    exact List.getLast?_append_cons ..
  exact absurd (endsInComment_of_named hend (Nat.le_refl _) hspan hname.symm) h.not_endsInComment

end BlockComment.CutsAt

/-- A block comment reads as blanks up to its first closing mark and as code behind it. So it is
hidden wherever it stands exactly if it holds no further comment. -/
theorem block_comment_read (comment : BlockComment) (marker : Identifier)
    (file : Option (List Char)) :
    (∃ piece back, comment.CutsAt piece back ∧
      ReadsAlike marker.text file comment.text
        (blankOut (openMark ++ (piece ++ closeMark)) ++ back)) ∧
    (ReadsAlike marker.text file comment.text (blankOut comment.text) ↔
      ¬ openMark <:+: comment.inner) := by
  obtain ⟨piece, back, hcut⟩ := comment.exists_cutsAt
  refine ⟨⟨piece, back, hcut, hcut.readsAlike marker.text file⟩, ?_, ?_⟩
  · intro halike
    exact hcut.back_eq_nil_iff.mp (hcut.back_eq_nil_of_readsAlike halike)
  · intro hnone
    obtain rfl := hcut.back_eq_nil_iff.mpr hnone
    have halike := hcut.readsAlike marker.text file
    have htext := hcut.text_eq
    rw [List.append_nil] at halike htext
    rwa [← htext] at halike

def commentedEnum : BlockComment where
  inner := " /* x */\n@GodotEnum\nenum A: Int \x7b\n    case a\n\x7d\n".toList
  pairsUp := by
    change PairsUp 0 (" ".toList ++ '/' :: '*' :: (" x ".toList ++ '*' :: '/' ::
      ("\n@GodotEnum\nenum A: Int \x7b\n    case a\n\x7d\n".toList ++ [])))
    have hrest := PairsUp.nil.append_of_forall (by decide :
      ∀ c ∈ "\n@GodotEnum\nenum A: Int \x7b\n    case a\n\x7d\n".toList, c ≠ '/' ∧ c ≠ '*')
    exact .append_of_forall (by decide) (.opens (.append_of_forall (by decide) (.closes hrest)))

theorem commented_enum_read :
    readSource "GodotEnum".toList none commentedEnum.text =
      .ok [⟨.enum, "A".toList, [⟨"a".toList, none⟩], none, some 2⟩] ∧
    readSource "GodotEnum".toList none (blankOut commentedEnum.text) = .ok [] ∧
    ¬ ReadsAlike "GodotEnum".toList none commentedEnum.text (blankOut commentedEnum.text) := by
  have hread : readSource "GodotEnum".toList none commentedEnum.text =
      .ok [⟨.enum, "A".toList, [⟨"a".toList, none⟩], none, some 2⟩] := by decide +kernel
  have hblanked : readSource "GodotEnum".toList none (blankOut commentedEnum.text) = .ok [] := by
    decide +kernel
  refine ⟨hread, hblanked, fun halike => ?_⟩
  have hsame := halike [] [] ⟨.inl rfl, by decide +kernel⟩
  rw [List.nil_append, List.nil_append, List.append_nil, List.append_nil, hread, hblanked] at hsame
  simp at hsame

end EnumExport
