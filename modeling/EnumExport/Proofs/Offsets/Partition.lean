import EnumExport.Proofs.Printing.Parts
import EnumExport.Proofs.Printing.Statements

/-!
Partitions: where in a text the parts of a division stand. They follow one another with a single
separator between two, outside of all groups, and a separator like that stands inside a part only
if it is a line end at which the part goes on. No other stretches of the text are like that.
-/

namespace EnumExport

open Glyph

variable {α β : Type}

@[ext] structure Stretch where
  start : Nat
  stop : Nat
  start_le_stop : start ≤ stop
deriving DecidableEq, Repr

def segment (xs : List β) (start stop : Nat) : List β := (xs.take stop).drop start

namespace Stretch

def of (stretch : Stretch) (xs : List β) : List β := segment xs stretch.start stretch.stop

def empty (place : Nat) : Stretch := ⟨place, place, Nat.le_refl place⟩

def longer (stretch : Stretch) : Stretch :=
  ⟨stretch.start, stretch.stop + 1, Nat.le_succ_of_le stretch.start_le_stop⟩

theorem stop_empty (place : Nat) : (empty place).stop = place := rfl

end Stretch

def stretchesFrom : Nat → List (List β) → List Stretch
  | _, [] => []
  | start, part :: parts =>
    ⟨start, start + part.length, Nat.le_add_right ..⟩ ::
      stretchesFrom (start + part.length + 1) parts

def EndsInJoint (text : List Char) : Prop := ∃ c ∈ (trimEnd text).getLast?, c = ',' ∨ c = '='

def StartsInJoint (text : List Char) : Prop := ∃ c ∈ (trimStart text).head?, c = ',' ∨ c = '='

namespace Division

def stretches (division : Division) (range : Stretch) (gs : List (Glyph α)) : List Stretch :=
  stretchesFrom range.start (division.parts (range.of gs))

/-- Whether a separator stands at a place, outside of the groups that are opened from `start` on. -/
def SeparatorAt (division : Division) (text : List Char) (start place : Nat) : Prop :=
  (∃ c ∈ text[place]?, division.isSeparator c = true) ∧ groupLevel 0 (segment text start place) = 0

/-- Whether a part that begins at `start` goes on at a line end, in a text that ends at `stop`. -/
def GoesOnAt (division : Division) (text : List Char) (start place stop : Nat) : Prop :=
  division.joinsLines = true ∧ text[place]? = some '\n' ∧
    (EndsInJoint (segment text start place) ∨ StartsInJoint (segment text place stop))

def IsCutOff (division : Division) (text : List Char) (range part : Stretch) : Prop :=
  division.SeparatorAt text range.start part.stop ∧
    ¬ division.GoesOnAt text part.start part.stop range.stop

def IsWhole (division : Division) (text : List Char) (range part : Stretch) : Prop :=
  ∀ place, part.start ≤ place → place < part.stop → division.SeparatorAt text range.start place →
    division.GoesOnAt text part.start place range.stop

structure IsPartition (division : Division) (text : List Char) (range : Stretch)
    (parts : List Stretch) : Prop where
  first : ∃ part ∈ parts.head?, part.start = range.start
  last : ∃ part ∈ parts.getLast?, part.stop = range.stop
  adjacent : parts.IsChain fun part next => next.start = part.stop + 1
  cutOff : ∀ part ∈ parts.dropLast, division.IsCutOff text range part
  whole : ∀ part ∈ parts, division.IsWhole text range part

end Division

section Segments

theorem length_segment {xs : List β} {start stop : Nat} (h : stop ≤ xs.length) :
    (segment xs start stop).length = stop - start := by
  rw [segment, List.length_drop, List.length_take, Nat.min_eq_left h]

theorem segment_self (xs : List β) (place : Nat) : segment xs place place = [] := by
  apply List.drop_eq_nil_of_le
  rw [List.length_take]
  omega

theorem segment_succ {xs : List β} {start place : Nat} {x : β} (h : start ≤ place)
    (hx : xs[place]? = some x) : segment xs start (place + 1) = segment xs start place ++ [x] := by
  obtain ⟨hlt, -⟩ := List.getElem?_eq_some_iff.mp hx
  have hstart : start ≤ (xs.take place).length := by
    rw [List.length_take]
    omega
  rw [segment, List.take_add_one, hx, List.drop_append_of_le_length hstart, Option.toList_some,
    segment]

theorem segment_eq_cons {xs : List β} {place stop : Nat} {x : β} (h : place < stop)
    (hx : xs[place]? = some x) : segment xs place stop = x :: segment xs (place + 1) stop := by
  have hget : (xs.take stop)[place]? = some x := by rw [List.getElem?_take_of_lt h, hx]
  obtain ⟨hlt, rfl⟩ := List.getElem?_eq_some_iff.mp hget
  rw [segment, segment, List.drop_eq_getElem_cons hlt]

theorem of_empty (xs : List β) (place : Nat) : (Stretch.empty place).of xs = [] :=
  segment_self xs place

theorem of_longer {part : Stretch} {xs : List β} {x : β} (hx : xs[part.stop]? = some x) :
    part.longer.of xs = part.of xs ++ [x] := segment_succ part.start_le_stop hx

theorem stretchesFrom_of_cons {part : Stretch} {xs : List β} (h : part.stop ≤ xs.length)
    (more : List (List β)) :
    stretchesFrom part.start (part.of xs :: more) =
      part :: stretchesFrom (part.stop + 1) more := by
  have hstop : part.start + (part.of xs).length = part.stop := by
    have hle := part.start_le_stop
    rw [Stretch.of, length_segment h]
    omega
  simp only [stretchesFrom, hstop]

theorem text_segment (gs : List (Glyph α)) (start stop : Nat) :
    text (segment gs start stop) = segment (text gs) start stop := by
  rw [segment, segment, text, text, List.map_drop, List.map_take]

theorem getElem?_text {gs : List (Glyph α)} {place : Nat} {g : Glyph α}
    (hg : gs[place]? = some g) : (text gs)[place]? = some g.shown := by
  rw [text, List.getElem?_map, hg, Option.map_some]

end Segments

section Joints

theorem startsWithJoint_iff {gs : List (Glyph α)} :
    startsWithJoint gs = true ↔ StartsInJoint (text gs) := by
  have htrim : trimStart (text gs) = text (skipBlanks gs) := List.dropWhile_map
  rw [StartsInJoint, htrim, startsWithJoint]
  cases skipBlanks gs with
  | nil => simp [text]
  | cons g rest => simp [text, isJoint]

theorem endsInJoint_iff {text : List Char} : EndsInJoint text ↔ StartsInJoint text.reverse := by
  rw [EndsInJoint, StartsInJoint, trimEnd, List.getLast?_reverse, trimStart]

theorem startsInJoint_cons {c : Char} (hc : isBlank c = true) (text : List Char) :
    StartsInJoint (c :: text) ↔ StartsInJoint text := by
  rw [StartsInJoint, trimStart, List.dropWhile_cons_of_pos hc]
  rfl

end Joints

namespace Division

variable {division : Division} {range part : Stretch}

section Steps

variable {gs : List (Glyph α)} {g : Glyph α}

theorem isSeparator_of_separatesAt {before after : List (Glyph α)}
    (h : division.separatesAt before g after = true) : division.isSeparator g.shown = true :=
  (Bool.and_eq_true_iff.mp h).1

theorem SparesGroups.levelBehind_eq (h : division.SparesGroups) {c : Char}
    (hc : division.isSeparator c = true) (level : Nat) : levelBehind level c = level := by
  have hnot : ¬ (opensGroup c = true ∨ closesGroup c = true) := by
    intro hgroup
    rw [h.not_isSeparator hgroup] at hc
    exact absurd hc (by decide)
  rw [not_or] at hnot
  rw [levelBehind, if_neg hnot.1, if_neg hnot.2]

theorem groupLevel_segment_succ (hg : gs[part.stop]? = some g) (hle : range.start ≤ part.stop) :
    groupLevel 0 (segment (text gs) range.start (part.stop + 1)) =
      levelBehind (groupLevel 0 (segment (text gs) range.start part.stop)) g.shown := by
  rw [segment_succ hle (getElem?_text hg), groupLevel, List.foldl_append]
  rfl

theorem goesOnAt_iff (hg : gs[part.stop]? = some g) (hlt : part.stop < range.stop) :
    division.GoesOnAt (text gs) part.start part.stop range.stop ↔
      division.joinsLines = true ∧ g.shown = '\n' ∧
        continues (part.of gs).reverse (segment gs (part.stop + 1) range.stop) = true := by
  have hbefore : text (part.of gs).reverse = (segment (text gs) part.start part.stop).reverse := by
    rw [← text_segment, text, text, List.map_reverse, Stretch.of]
  rw [GoesOnAt, getElem?_text hg, Option.some_inj]
  refine and_congr_right fun _ => and_congr_right fun hline => ?_
  have hblank : isBlank g.shown = true := by
    rw [hline]
    decide
  rw [continues, Bool.or_eq_true, startsWithJoint_iff, startsWithJoint_iff, hbefore,
    ← endsInJoint_iff, text_segment, segment_eq_cons hlt (getElem?_text hg),
    startsInJoint_cons hblank]

theorem isCutOff_iff (hg : gs[part.stop]? = some g) (hlt : part.stop < range.stop) :
    division.IsCutOff (text gs) range part ↔
      groupLevel 0 (segment (text gs) range.start part.stop) = 0 ∧
        division.separatesAt (part.of gs).reverse g (segment gs (part.stop + 1) range.stop) =
          true := by
  have hseparator : (∃ c ∈ (text gs)[part.stop]?, division.isSeparator c = true) ↔
      division.isSeparator g.shown = true := by
    rw [getElem?_text hg]
    simp
  rw [IsCutOff, SeparatorAt, hseparator, goesOnAt_iff hg hlt, separatesAt, Bool.and_eq_true,
    Bool.not_eq_true', ← Bool.not_eq_true, Bool.and_eq_true, Bool.and_eq_true, beq_iff_eq]
  tauto

theorem isWhole_empty (text : List Char) (range : Stretch) (place : Nat) :
    division.IsWhole text range (.empty place) := by
  intro other hbehind hbefore
  exact absurd hbehind (Nat.not_le.mpr hbefore)

theorem IsWhole.longer {text : List Char} (h : division.IsWhole text range part)
    (hcut : ¬ division.IsCutOff text range part) : division.IsWhole text range part.longer := by
  intro place hbegin hend hseparator
  rcases Nat.lt_succ_iff_lt_or_eq.mp hend with hlt | rfl
  · exact h place hbegin hlt hseparator
  · by_contra hstops
    exact hcut ⟨hseparator, hstops⟩

theorem IsWhole.stop_le {text : List Char} {other : Stretch}
    (h : division.IsWhole text range part) (hstart : part.start = other.start)
    (hcut : division.IsCutOff text range other) : part.stop ≤ other.stop := by
  by_contra hlt
  have hle := other.start_le_stop
  apply hcut.2
  rw [← hstart]
  exact h other.stop (by omega) (by omega) hcut.1

end Steps

inductive Tiles (division : Division) (text : List Char) (range : Stretch) :
    Nat → List Stretch → Prop
  | last {start : Nat} {part : Stretch} (hstart : part.start = start)
      (hwhole : division.IsWhole text range part) (hstop : part.stop = range.stop) :
      Tiles division text range start [part]
  | next {start : Nat} {part : Stretch} {parts : List Stretch} (hstart : part.start = start)
      (hwhole : division.IsWhole text range part) (hcut : division.IsCutOff text range part)
      (hrest : Tiles division text range (part.stop + 1) parts) :
      Tiles division text range start (part :: parts)

namespace Tiles

variable {text : List Char} {parts others : List Stretch} {start : Nat}

theorem start_le (h : division.Tiles text range start parts) : start ≤ range.stop := by
  induction h with
  | @last start part hstart _ hstop =>
    have hle := part.start_le_stop
    omega
  | @next start part parts hstart _ _ _ ih =>
    have hle := part.start_le_stop
    omega

theorem unique (h : division.Tiles text range start parts)
    (hothers : division.Tiles text range start others) : parts = others := by
  induction h generalizing others with
  | @last start part hstart hwhole hstop =>
    cases hothers with
    | @last _ other hstart' _ hstop' =>
      have hpart : part = other := Stretch.ext (by omega) (by omega)
      rw [hpart]
    | @next _ other _ hstart' _ hcut' hrest' =>
      have hle := hwhole.stop_le (hstart.trans hstart'.symm) hcut'
      have hrest := hrest'.start_le
      omega
  | @next start part parts hstart hwhole hcut hrest ih =>
    cases hothers with
    | @last _ other hstart' hwhole' hstop' =>
      have hle := hwhole'.stop_le (hstart'.trans hstart.symm) hcut
      have hrest' := hrest.start_le
      omega
    | @next _ other _ hstart' hwhole' hcut' hrest' =>
      have hle := hwhole.stop_le (hstart.trans hstart'.symm) hcut'
      have hge := hwhole'.stop_le (hstart'.trans hstart.symm) hcut
      obtain rfl : part = other := Stretch.ext (by omega) (by omega)
      rw [ih hrest']

theorem stretchesFrom_eq (h : division.Tiles text range start parts) {xs : List β}
    (hbound : range.stop ≤ xs.length) :
    stretchesFrom start (parts.map (Stretch.of · xs)) = parts := by
  induction h with
  | @last start part hstart _ hstop =>
    rw [List.map_singleton, ← hstart, stretchesFrom_of_cons (by omega), stretchesFrom]
  | @next start part parts hstart _ _ hrest ih =>
    have hstop := hrest.start_le
    rw [List.map_cons, ← hstart, stretchesFrom_of_cons (by omega), ih]

theorem exists_cons (h : division.Tiles text range start parts) :
    ∃ part rest, part.start = start ∧ parts = part :: rest := by
  cases h with
  | last hstart => exact ⟨_, _, hstart, rfl⟩
  | next hstart => exact ⟨_, _, hstart, rfl⟩

theorem exists_getLast? (h : division.Tiles text range start parts) :
    ∃ part ∈ parts.getLast?, part.stop = range.stop := by
  induction h with
  | @last start part _ _ hstop => exact ⟨part, rfl, hstop⟩
  | next _ _ _ hrest ih =>
    obtain ⟨next, rest, -, rfl⟩ := hrest.exists_cons
    exact ih

theorem isChain (h : division.Tiles text range start parts) :
    parts.IsChain fun part next => next.start = part.stop + 1 := by
  induction h with
  | last => exact .singleton _
  | next _ _ _ hrest ih =>
    obtain ⟨next, rest, hbegins, rfl⟩ := hrest.exists_cons
    exact .cons_cons hbegins ih

theorem isCutOff (h : division.Tiles text range start parts) :
    ∀ part ∈ parts.dropLast, division.IsCutOff text range part := by
  induction h with
  | last => exact List.forall_mem_nil _
  | next _ _ hcut hrest ih =>
    obtain ⟨next, rest, -, rfl⟩ := hrest.exists_cons
    exact List.forall_mem_cons.mpr ⟨hcut, ih⟩

theorem isWhole (h : division.Tiles text range start parts) :
    ∀ part ∈ parts, division.IsWhole text range part := by
  induction h with
  | last _ hwhole => exact List.forall_mem_singleton.mpr hwhole
  | next _ hwhole _ _ ih => exact List.forall_mem_cons.mpr ⟨hwhole, ih⟩

theorem of_isChain {rest : List Stretch}
    (hlast : ∃ last ∈ (part :: rest).getLast?, last.stop = range.stop)
    (hchain : (part :: rest).IsChain fun part next => next.start = part.stop + 1)
    (hcuts : ∀ other ∈ (part :: rest).dropLast, division.IsCutOff text range other)
    (hwholes : ∀ other ∈ part :: rest, division.IsWhole text range other) :
    division.Tiles text range part.start (part :: rest) := by
  induction rest generalizing part with
  | nil =>
    obtain ⟨last, hmem, hstop⟩ := hlast
    obtain rfl := Option.some.inj hmem
    exact .last rfl (hwholes part (List.mem_singleton_self part)) hstop
  | cons next rest ih =>
    obtain ⟨hbegins, hchain⟩ := List.isChain_cons_cons.mp hchain
    obtain ⟨hcut, hcuts⟩ := List.forall_mem_cons.mp hcuts
    obtain ⟨hwhole, hwholes⟩ := List.forall_mem_cons.mp hwholes
    refine .next rfl hwhole hcut ?_
    rw [← hbegins]
    exact ih hlast hchain hcuts hwholes

end Tiles

theorem isPartition_iff_tiles {text : List Char} {parts : List Stretch} :
    division.IsPartition text range parts ↔ division.Tiles text range range.start parts := by
  constructor
  · intro h
    obtain ⟨part, hpart, hstart⟩ := h.first
    obtain ⟨rest, rfl⟩ := List.head?_eq_some_iff.mp hpart
    rw [← hstart]
    exact Tiles.of_isChain h.last h.adjacent h.cutOff h.whole
  · intro h
    refine ⟨?_, h.exists_getLast?, h.isChain, h.isCutOff, h.isWhole⟩
    obtain ⟨part, rest, hstart, rfl⟩ := h.exists_cons
    exact ⟨part, rfl, hstart⟩

theorem exists_tiles_partsFrom (hspares : division.SparesGroups) {gs : List (Glyph α)}
    (hbound : range.stop ≤ gs.length) (hwhole : division.IsWhole (text gs) range part)
    (hstart : range.start ≤ part.start) (hstop : part.stop ≤ range.stop) :
    ∃ parts, division.Tiles (text gs) range part.start parts ∧
      division.partsFrom (groupLevel 0 (segment (text gs) range.start part.stop))
        (part.of gs).reverse (segment gs part.stop range.stop) =
          parts.map (Stretch.of · gs) := by
  -- The induction is on how much is left; that the part so far is whole carries it.
  obtain ⟨left, hleft⟩ := Nat.exists_eq_add_of_le hstop
  induction left generalizing part with
  | zero =>
    refine ⟨[part], .last rfl hwhole hleft.symm, ?_⟩
    have hrest : segment gs part.stop range.stop = [] := by
      rw [hleft]
      exact segment_self gs part.stop
    rw [hrest, partsFrom, List.reverse_reverse, List.map_singleton]
  | succ left ih =>
    have hlt : part.stop < range.stop := by omega
    have hrest : range.stop = part.stop + 1 + left := by omega
    have hbefore := hstart.trans part.start_le_stop
    obtain ⟨g, hg⟩ : ∃ g, gs[part.stop]? = some g :=
      ⟨_, List.getElem?_eq_getElem (Nat.lt_of_lt_of_le hlt hbound)⟩
    have hlevel := groupLevel_segment_succ hg hbefore
    rw [segment_eq_cons hlt hg, partsFrom_eq_ite hspares, List.reverse_reverse]
    by_cases hcut : division.IsCutOff (text gs) range part
    · obtain ⟨parts, htiles, hparts⟩ := ih (isWhole_empty (text gs) range (part.stop + 1))
        (Nat.le_succ_of_le hbefore) hlt hrest
      refine ⟨part :: parts, .next rfl hwhole hcut htiles, ?_⟩
      have hends := (isCutOff_iff hg hlt).mp hcut
      rw [Stretch.stop_empty, hlevel, hends.1,
        hspares.levelBehind_eq (isSeparator_of_separatesAt hends.2), of_empty] at hparts
      rw [if_pos hends, List.map_cons, ← hparts, List.reverse_nil]
    · obtain ⟨parts, htiles, hparts⟩ := ih (hwhole.longer hcut) hstart hlt hrest
      refine ⟨parts, htiles, ?_⟩
      rw [if_neg fun hends => hcut ((isCutOff_iff hg hlt).mpr hends), ← hparts, ← hlevel,
        of_longer hg, List.reverse_append]
      rfl

/-- A stretch of a text has one partition, and the parts of the stretch are what stands there. -/
theorem parts_partition (hspares : division.SparesGroups) {gs : List (Glyph α)}
    (hbound : range.stop ≤ gs.length) :
    (∀ parts, division.IsPartition (text gs) range parts ↔ parts = division.stretches range gs) ∧
      division.parts (range.of gs) = (division.stretches range gs).map (Stretch.of · gs) := by
  obtain ⟨parts, htiles, hparts⟩ := exists_tiles_partsFrom hspares hbound
    (isWhole_empty (text gs) range range.start) (Nat.le_refl range.start) range.start_le_stop
  rw [Stretch.stop_empty, segment_self, of_empty] at hparts
  have hrun : division.parts (range.of gs) = parts.map (Stretch.of · gs) := hparts
  have hstretches : division.stretches range gs = parts := by
    rw [stretches, hrun]
    exact htiles.stretchesFrom_eq hbound
  rw [hstretches]
  refine ⟨fun others => ?_, hrun⟩
  rw [isPartition_iff_tiles]
  constructor
  · intro hothers
    exact hothers.unique htiles
  · rintro rfl
    exact htiles

theorem parts_partition_sample :
    let gs := solid ";a([;]\n),\n b\n\t= 1)\n;c(;x)]; \n=d(;\n".toList
    let range : Stretch := ⟨1, 33, by decide⟩
    statementDivision.SparesGroups ∧ range.stop ≤ gs.length ∧
      statementDivision.IsPartition (text gs) range [⟨1, 18, by decide⟩, ⟨19, 19, by decide⟩,
        ⟨20, 26, by decide⟩, ⟨27, 33, by decide⟩] ∧
      statementDivision.parts (range.of gs) = [solid "a([;]\n),\n b\n\t= 1)".toList, [],
        solid "c(;x)]".toList, solid " \n=d(;".toList] := by
  intro gs range
  have hspares := isCoarse_statementDivision.sparesGroups
  have hbound : range.stop ≤ gs.length := by decide
  obtain ⟨hpartition, hparts⟩ := parts_partition hspares hbound
  have hstretches : statementDivision.stretches range gs = [⟨1, 18, by decide⟩,
      ⟨19, 19, by decide⟩, ⟨20, 26, by decide⟩, ⟨27, 33, by decide⟩] := by decide
  refine ⟨hspares, hbound, ?_, ?_⟩
  · rw [hpartition, hstretches]
  · rw [hparts, hstretches]
    rfl

end Division

end EnumExport
