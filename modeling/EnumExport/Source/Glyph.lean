import EnumExport.Source.Mask
import EnumExport.Text.Word

/-!
Glyphs: the characters of a masked text, each with what stands behind it in the source. The
structure of a text is found by looking at the shown characters alone; what stands behind them is
carried along untouched, so that a raw value found in the one view can be taken from the other.
-/

namespace EnumExport

def tick : Char := Char.ofNat 96

structure Glyph (α : Type) where
  shown : Char
  source : α
deriving DecidableEq, Repr

/-- Shown is the text without comments and string insides, behind it the text without comments. -/
def glyphs (text : List Char) : List (Glyph Char) :=
  (mask false text).zipWith Glyph.mk (mask true text)

namespace Glyph

variable {α : Type}

def isBlank (g : Glyph α) : Bool := EnumExport.isBlank g.shown

def isWord (g : Glyph α) : Bool := EnumExport.isWord g.shown

def isQualified (g : Glyph α) : Bool := g.isWord || g.shown == '.'

def isTick (g : Glyph α) : Bool := g.shown == tick

def text (gs : List (Glyph α)) : List Char := gs.map Glyph.shown

def leadingWord (gs : List (Glyph α)) : List Char := text (gs.takeWhile isWord)

def afterWord (gs : List (Glyph α)) : List (Glyph α) := gs.dropWhile isWord

def skipBlanks (gs : List (Glyph α)) : List (Glyph α) := gs.dropWhile isBlank

def startsName : List (Glyph α) → Bool
  | [] => false
  | g :: _ => isNameStart g.shown

def afterBlanks? : List (Glyph α) → Option (List (Glyph α))
  | [] => none
  | g :: gs => if g.isBlank then some (skipBlanks gs) else none

def afterGroup? (gs : List (Glyph α)) : Option (List (Glyph α)) :=
  match skipBlanks gs with
  | [] => none
  | g :: rest =>
    if g.shown = '(' then
      match rest.dropWhile (·.shown != ')') with
      | [] => none
      | _ :: rest => some rest
    else none

def afterOptionalGroup (gs : List (Glyph α)) : List (Glyph α) := (afterGroup? gs).getD gs

def spanName? (more : Glyph α → Bool) (gs : List (Glyph α)) :
    Option (List (Glyph α) × List (Glyph α)) :=
  let (opening, rest) := match gs with
    | [] => ([], [])
    | g :: rest => if g.isTick then ([g], rest) else ([], g :: rest)
  if startsName rest then
    let run := rest.takeWhile more
    match rest.dropWhile more with
    | [] => some (opening ++ run, [])
    | g :: rest =>
      if g.isTick then some (opening ++ run ++ [g], rest) else some (opening ++ run, g :: rest)
  else none

def unquotedText (name : List (Glyph α)) : List Char := text (name.filter (!·.isTick))

@[simp] theorem length_skipBlanks_le (gs : List (Glyph α)) : (skipBlanks gs).length ≤ gs.length :=
  (List.dropWhile_sublist _).length_le

theorem length_afterWord_le (gs : List (Glyph α)) : (afterWord gs).length ≤ gs.length :=
  (List.dropWhile_sublist _).length_le

theorem length_afterBlanks?_lt {gs rest : List (Glyph α)} (h : afterBlanks? gs = some rest) :
    rest.length < gs.length := by
  cases gs with
  | nil => simp [afterBlanks?] at h
  | cons g gs =>
    simp only [afterBlanks?] at h
    split at h
    · simp only [Option.some.injEq] at h
      subst h
      exact Nat.lt_succ_of_le (length_skipBlanks_le gs)
    · simp at h

theorem length_afterGroup?_lt {gs rest : List (Glyph α)} (h : afterGroup? gs = some rest) :
    rest.length < gs.length := by
  have hskip := length_skipBlanks_le gs
  unfold afterGroup? at h
  split at h
  · simp at h
  · rename_i g tail hg
    rw [hg] at hskip
    have htail := (@List.dropWhile_sublist _ tail (·.shown != ')')).length_le
    split at h
    · split at h
      · simp at h
      · rename_i r hd
        simp only [Option.some.injEq] at h
        subst h
        rw [hd] at htail
        simp only [List.length_cons] at hskip htail
        omega
    · simp at h

theorem length_afterOptionalGroup_le (gs : List (Glyph α)) :
    (afterOptionalGroup gs).length ≤ gs.length := by
  unfold afterOptionalGroup
  cases h : afterGroup? gs with
  | none => simp
  | some rest => exact Nat.le_of_lt (length_afterGroup?_lt h)

end Glyph

end EnumExport
