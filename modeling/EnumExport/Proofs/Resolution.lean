import EnumExport.Resolution
import Mathlib.Algebra.Ring.Int.Defs

namespace EnumExport

namespace Expression

def negated (literal : Int) : Nat → Expression
  | 0 => integer literal
  | count + 1 => negation (negated literal count)

theorem eval?_negated (literal : Int) (count : Nat) :
    (negated literal count).eval? = some ((-1) ^ count * literal) := by
  induction count with
  | zero => simp [negated, eval?]
  | succ count ih => simp [negated, eval?, ih, pow_succ]

theorem eval?_eq_some_iff {expression : Expression} {value : Int} :
    expression.eval? = some value ↔
      ∃ literal count, expression = negated literal count ∧ value = (-1) ^ count * literal := by
  constructor
  · intro h
    induction expression generalizing value with
    | integer literal =>
      obtain rfl : literal = value := Option.some.inj h
      exact ⟨literal, 0, rfl, by simp⟩
    | negation operand ih =>
      obtain ⟨inner, hinner, rfl⟩ := Option.map_eq_some_iff.mp h
      obtain ⟨literal, count, rfl, rfl⟩ := ih hinner
      exact ⟨literal, count + 1, rfl, by simp [pow_succ]⟩
    | unsupported source => simp [eval?] at h
  · rintro ⟨literal, count, rfl, rfl⟩
    exact eval?_negated literal count

end Expression

/-- The raw value is an integer under any number of minus signs, which comes to `value`. Any other
raw value counts as none. -/
def EnumCase.IsExplicit (c : EnumCase) (value : Int) : Prop :=
  ∃ literal count, c.rawValue = some (.negated literal count) ∧ value = (-1) ^ count * literal

theorem EnumCase.explicit?_eq_some_iff {c : EnumCase} {value : Int} :
    c.explicit? = some value ↔ c.IsExplicit value := by
  rw [explicit?, IsExplicit]
  cases c.rawValue with
  | none => simp
  | some expression => simp [Expression.eval?_eq_some_iff]

theorem EnumCase.explicit?_eq_none_iff {c : EnumCase} :
    c.explicit? = none ↔ ∀ value, ¬ c.IsExplicit value := by
  rw [Option.eq_none_iff_forall_ne_some]
  simp only [ne_eq, explicit?_eq_some_iff]

def NoneExplicit (cases : List EnumCase) (first last : Nat) : Prop :=
  ∀ (position : Nat) (c : EnumCase), first ≤ position → position ≤ last →
    cases[position]? = some c → ∀ value, ¬ c.IsExplicit value

structure LastExplicit (cases : List EnumCase) (position last : Nat) (value : Int) : Prop where
  le : last ≤ position
  isExplicit : ∃ c, cases[last]? = some c ∧ c.IsExplicit value
  noneAfter : NoneExplicit cases (last + 1) position

inductive IsNumbered (start : Int) (cases : List EnumCase) (position : Nat) : Int → Prop
  | counted {last : Nat} {own : Int} : LastExplicit cases position last own →
      IsNumbered start cases position (own + (position - last : Nat))
  | uncounted : NoneExplicit cases 0 position → IsNumbered start cases position (start + position)

section Steps

variable {c : EnumCase} {cases : List EnumCase} {position : Nat}

theorem NoneExplicit.cons_succ {first : Nat} (h : NoneExplicit cases first position) :
    NoneExplicit (c :: cases) (first + 1) (position + 1) := by
  intro other d hfirst hlast hother
  obtain ⟨before, rfl⟩ : ∃ before, other = before + 1 := ⟨other - 1, by omega⟩
  exact h before d (by omega) (by omega) hother

theorem NoneExplicit.cons_zero (hc : c.explicit? = none) (h : NoneExplicit cases 0 position) :
    NoneExplicit (c :: cases) 0 (position + 1) := by
  intro other d hfirst hlast hother
  cases other with
  | zero =>
    obtain rfl : c = d := by simpa using hother
    exact EnumCase.explicit?_eq_none_iff.mp hc
  | succ other => exact h other d (by omega) (by omega) hother

theorem noneExplicit_head (hc : c.explicit? = none) : NoneExplicit (c :: cases) 0 0 := by
  intro other d hfirst hlast hother
  obtain rfl : other = 0 := by omega
  obtain rfl : c = d := by simpa using hother
  exact EnumCase.explicit?_eq_none_iff.mp hc

theorem NoneExplicit.of_lt {first : Nat} (h : position < first) :
    NoneExplicit cases first position := by
  intro other d hfirst hlast
  omega

theorem LastExplicit.cons {last : Nat} {own : Int} (h : LastExplicit cases position last own) :
    LastExplicit (c :: cases) (position + 1) (last + 1) own :=
  ⟨Nat.succ_le_succ h.le, h.isExplicit, h.noneAfter.cons_succ⟩

theorem lastExplicit_head {own : Int} (hc : c.explicit? = some own)
    (h : NoneExplicit (c :: cases) 1 position) : LastExplicit (c :: cases) position 0 own :=
  ⟨Nat.zero_le _, ⟨c, rfl, EnumCase.explicit?_eq_some_iff.mp hc⟩, h⟩

theorem isNumbered_head (start : Int) (c : EnumCase) (cases : List EnumCase) :
    IsNumbered start (c :: cases) 0 (c.explicit?.getD start) := by
  cases hc : c.explicit? with
  | none =>
    have hnone : NoneExplicit (c :: cases) 0 0 := noneExplicit_head hc
    simpa using (IsNumbered.uncounted hnone : IsNumbered start _ _ _)
  | some own =>
    have hlast : LastExplicit (c :: cases) 0 0 own := lastExplicit_head hc (.of_lt Nat.one_pos)
    simpa using (IsNumbered.counted hlast : IsNumbered start _ _ _)

theorem IsNumbered.cons {start value : Int}
    (h : IsNumbered (c.explicit?.getD start + 1) cases position value) :
    IsNumbered start (c :: cases) (position + 1) value := by
  cases h with
  | @counted last own hlast =>
    have hdistance : position - last = position + 1 - (last + 1) := by omega
    rw [hdistance]
    exact .counted hlast.cons
  | uncounted hnone =>
    cases hc : c.explicit? with
    | none =>
      have hvalue : start + 1 + (position : Int) = start + (position + 1 : Nat) := by omega
      rw [Option.getD_none, hvalue]
      exact .uncounted (hnone.cons_zero hc)
    | some own =>
      have hvalue : own + 1 + (position : Int) = own + (position + 1 - 0 : Nat) := by omega
      rw [Option.getD_some, hvalue]
      exact .counted (lastExplicit_head hc hnone.cons_succ)

end Steps

theorem exists_value_resolve (start : Int) (cases : List EnumCase) {position : Nat}
    (h : position < cases.length) :
    ∃ value, ((resolve start cases).map ResolvedCase.value)[position]? = some value ∧
      IsNumbered start cases position value := by
  induction cases generalizing start position with
  | nil => simp at h
  | cons c cases ih =>
    rw [resolve, List.map_cons]
    cases position with
    | zero => exact ⟨_, rfl, isNumbered_head start c cases⟩
    | succ position =>
      obtain ⟨value, hvalue, hnumbered⟩ :=
        ih (c.explicit?.getD start + 1) (Nat.lt_of_succ_lt_succ h)
      exact ⟨value, hvalue, hnumbered.cons⟩

def nextValue (start : Int) (resolved : List ResolvedCase) : Int :=
  match resolved.getLast? with
  | none => start
  | some last => last.value + 1

theorem nextValue_cons (start : Int) (first : ResolvedCase) (rest : List ResolvedCase) :
    nextValue start (first :: rest) = nextValue (first.value + 1) rest := by
  cases rest with
  | nil => rfl
  | cons second rest => simp [nextValue, List.getLast?_cons]

theorem resolve_append (start : Int) (cases more : List EnumCase) :
    resolve start (cases ++ more) =
      resolve start cases ++ resolve (nextValue start (resolve start cases)) more := by
  induction cases generalizing start with
  | nil => rfl
  | cons c cases ih =>
    rw [List.cons_append, resolve, ih, resolve, nextValue_cons, List.cons_append]

/-- Every case keeps its name and its place, and has the value of the last case up to it with a
value of its own plus the distance to that one, or if there is none the start plus its position.
Resolving goes part by part. -/
theorem resolve_closed_form (start : Int) (cases : List EnumCase) :
    (resolve start cases).map ResolvedCase.name = cases.map EnumCase.name ∧
      (∀ position < cases.length, ∃ value,
        ((resolve start cases).map ResolvedCase.value)[position]? = some value ∧
          IsNumbered start cases position value) ∧
      ∀ more, resolve start (cases ++ more) =
        resolve start cases ++ resolve (nextValue start (resolve start cases)) more :=
  ⟨map_name_resolve start cases, fun _ => exists_value_resolve start cases,
    resolve_append start cases⟩

def sampleCases : List EnumCase :=
  [⟨['a'], none⟩, ⟨['b'], some (.negation (.negation (.negation (.integer 3))))⟩,
    ⟨['c'], some (.negation (.unsupported ['x']))⟩, ⟨['d'], none⟩]

theorem resolve_closed_form_sample :
    3 < sampleCases.length ∧
      (resolve 7 sampleCases).map ResolvedCase.value = [7, -3, -2, -1] ∧
      IsNumbered 7 sampleCases 3 (-1) := by
  obtain ⟨value, hvalue, hnumbered⟩ := (resolve_closed_form 7 sampleCases).2.1 3 (by decide)
  obtain rfl : -1 = value := Option.some.inj hvalue
  exact ⟨by decide, by decide, hnumbered⟩

end EnumExport
