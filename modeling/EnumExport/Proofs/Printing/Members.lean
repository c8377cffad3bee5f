import EnumExport.Proofs.Printing.Bodies
import EnumExport.Proofs.Printing.Frames
import EnumExport.Proofs.Reading.Blocks

/-!
Members: what else than case statements stands in a body, a head on one line and a block. With the
block blanked a member gives no case, but a head that ends in a comma or an equals sign takes in the
statement below it.
-/

namespace EnumExport

open Glyph

theorem leadingWord_solid_append {trail : List (Glyph Char)}
    (h : ∀ g ∈ trail.head?, Glyph.isWord g = false) (text : List Char) :
    leadingWord (solid text ++ trail) = text.takeWhile EnumExport.isWord := by
  have hsolid : (solid text).takeWhile Glyph.isWord = solid (text.takeWhile EnumExport.isWord) :=
    List.takeWhile_map
  have htake :
      (solid text ++ trail).takeWhile Glyph.isWord = (solid text).takeWhile Glyph.isWord := by
    cases trail with
    | nil => rw [List.append_nil]
    | cons g trail => exact takeWhile_append_cons _ _ (h g rfl)
  rw [leadingWord, htake, hsolid, text_solid]

theorem startsWithJoint_solid_append {text : List Char}
    (h : text.dropWhile EnumExport.isBlank ≠ []) (rest : List (Glyph Char)) :
    startsWithJoint (solid text ++ rest) =
      (text.dropWhile EnumExport.isBlank).head?.any isJoint := by
  induction text with
  | nil => exact absurd rfl h
  | cons c text ih =>
    rw [solid_cons, List.cons_append]
    by_cases hc : EnumExport.isBlank c = true
    · rw [List.dropWhile_cons_of_pos hc] at h ⊢
      rw [startsWithJoint_of_isBlank hc, ih h]
    · rw [startsWithJoint_of_not_isBlank (by simpa using hc), List.dropWhile_cons_of_neg hc]
      rfl

structure Member where
  head : List Char
  block : List Char
  firstWord_allowed : head.takeWhile isWord ∉ [[], caseWord, indirectWord]
  wellNested_head : WellNested head
  holdsNoStop_head : HoldsNoStop head
  oneLine_head : ∀ c ∈ head, endsStatement c = false
  isSolid_block : IsSolid block
  unmarked_block : '@' ∉ block
  balanced_block : BraceBalanced block

namespace Member

variable (member : Member)

def text : List Char := member.head ++ '{' :: (member.block ++ ['}'])

def endsInJoint : Bool := (trimEnd member.head).getLast?.any isJoint

def remains : List (Glyph Char) := ⟨' ', '{'⟩ :: (hidden member.block ++ [⟨' ', '}'⟩])

theorem exists_head_eq : ∃ c more, member.head = c :: more ∧ isWord c = true := by
  have hallowed := member.firstWord_allowed
  cases hhead : member.head with
  | nil => simp [hhead] at hallowed
  | cons c more =>
    refine ⟨c, more, rfl, ?_⟩
    by_contra hc
    simp [hhead, hc] at hallowed

theorem showsBlank_remains : ShowsBlank member.remains := by
  simp only [remains, ShowsBlank, List.forall_mem_cons, List.forall_mem_append]
  exact ⟨by decide, showsBlank_hidden member.block, by decide, List.forall_mem_nil _⟩

theorem afterCase?_head {lead trail : List (Glyph Char)} (hlead : ShowsBlank lead)
    (htrail : ∀ g ∈ trail.head?, Glyph.isWord g = false) :
    afterCase? (lead ++ (solid member.head ++ trail)) = none := by
  obtain ⟨c, more, hhead, hc⟩ := member.exists_head_eq
  have hskip : skipBlanks (lead ++ (solid member.head ++ trail)) =
      ⟨c, c⟩ :: (solid more ++ trail) := by
    rw [skipBlanks_append_of_showsBlank hlead, hhead]
    simp [skipBlanks, Glyph.isBlank, isBlank_of_isWord hc]
  have hat : c ≠ '@' := ne_of_holds hc (by decide)
  have hleading : leadingWord (⟨c, c⟩ :: (solid more ++ trail)) = member.head.takeWhile isWord := by
    have hcons : (⟨c, c⟩ : Glyph Char) :: (solid more ++ trail) = solid member.head ++ trail := by
      simp [hhead]
    rw [hcons, leadingWord_solid_append htrail]
  have hallowed := member.firstWord_allowed
  simp only [List.mem_cons, List.not_mem_nil, or_false, not_or] at hallowed
  rw [afterCase?_of_skipBlanks hskip, if_neg hat, afterCaseWord?, hleading, if_neg hallowed.2.1,
    if_neg hallowed.2.2]

theorem startsWithJoint_head (before : List (Glyph Char)) :
    startsWithJoint ((solid member.head).reverse ++ before) = member.endsInJoint := by
  obtain ⟨c, more, hhead, hc⟩ := member.exists_head_eq
  have hne : member.head.reverse.dropWhile EnumExport.isBlank ≠ [] := by
    rw [hhead, List.reverse_cons, dropWhile_append_cons _ _ (isBlank_of_isWord hc)]
    simp
  have hreverse : (solid member.head).reverse = solid member.head.reverse := List.map_reverse.symm
  rw [hreverse, startsWithJoint_solid_append hne, endsInJoint, trimEnd, List.getLast?_reverse]

theorem passes_head : statementDivision.Passes member.head :=
  Division.passes_of_wellNested member.wellNested_head member.oneLine_head

end Member

inductive BodyStatement where
  | listing (printed : PrintedStatement)
  | aside (member : Member)

namespace BodyStatement

def text : BodyStatement → List Char
  | listing printed => printed.text
  | aside member => member.text

def printed? : BodyStatement → Option PrintedStatement
  | listing printed => some printed
  | aside _ => none

def endsInJoint : BodyStatement → Bool
  | listing _ => false
  | aside member => member.endsInJoint

def core : BodyStatement → List Char
  | listing printed => printed.text
  | aside member => member.head

def remains : BodyStatement → List (Glyph Char)
  | listing _ => []
  | aside member => member.remains

variable (statement : BodyStatement)

theorem passes_core : statementDivision.Passes statement.core := by
  cases statement with
  | listing printed => exact Division.passes_statement printed
  | aside member => exact member.passes_head

theorem showsBlank_remains : ShowsBlank statement.remains := by
  cases statement with
  | listing printed => exact List.forall_mem_nil _
  | aside member => exact member.showsBlank_remains

theorem startsWithJoint_core (rest : List (Glyph Char)) :
    startsWithJoint (solid statement.core ++ rest) = false := by
  cases statement with
  | listing printed => exact PrintedBody.startsWithJoint_statement printed rest
  | aside member =>
    obtain ⟨c, more, hhead, hc⟩ := member.exists_head_eq
    rw [core, hhead, solid_cons, List.cons_append,
      startsWithJoint_of_not_isBlank (isBlank_of_isWord hc), isJoint_of_isWord hc]

theorem startsWithJoint_reverse_core (before : List (Glyph Char)) :
    startsWithJoint ((solid statement.core).reverse ++ before) = statement.endsInJoint := by
  cases statement with
  | listing printed => exact startsWithJoint_reverse printed.endsFirmly_text before
  | aside member => exact member.startsWithJoint_head before

theorem flattenAt_text (rest : List (Glyph Char)) :
    flattenAt 0 (solid statement.text ++ rest) =
      solid statement.core ++ (statement.remains ++ flattenAt 0 rest) := by
  cases statement with
  | listing printed =>
    exact flattenAt_append_of_forall (shown_of_holdsNoStop printed.holdsNoStop_text) rest
  | aside member =>
    have hblock := flattenAt_block 0 (closes_of_braceCounts member.balanced_block) rest
    simp only [text, Member.text, solid_append, solid_cons, solid_nil, List.append_assoc,
      List.cons_append, List.nil_append]
    rw [flattenAt_append_of_forall (shown_of_holdsNoStop member.holdsNoStop_head), hblock]
    simp [core, remains, Member.remains]

end BodyStatement

end EnumExport
