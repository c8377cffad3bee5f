import EnumExport.Keyed
import Mathlib.Data.List.Nodup
import Mathlib.Data.List.Perm.Basic

namespace EnumExport

namespace Keyed

variable {κ ν : Type} [DecidableEq κ] {key : κ} {value : ν} {entries : Keyed κ ν}

theorem mem_of_get? (h : get? key entries = some value) : (key, value) ∈ entries := by
  induction entries with
  | nil => simp [get?] at h
  | cons first entries ih =>
    obtain ⟨other, old⟩ := first
    rw [get?] at h
    split at h
    · rename_i hother
      rw [hother, Option.some.inj h]
      exact List.mem_cons_self ..
    · exact List.mem_cons_of_mem _ (ih h)

theorem exists_get?_of_mem (h : (key, value) ∈ entries) :
    ∃ first, get? key entries = some first := by
  induction entries with
  | nil => simp at h
  | cons first entries ih =>
    obtain ⟨other, old⟩ := first
    rw [get?]
    split
    · exact ⟨old, rfl⟩
    · rename_i hother
      rcases List.mem_cons.mp h with heq | hmem
      · exact absurd (Prod.mk.inj heq).1.symm hother
      · exact ih hmem

theorem get?_append (key : κ) (front back : Keyed κ ν) :
    get? key (front ++ back) = (get? key front).or (get? key back) := by
  induction front with
  | nil => simp [get?]
  | cons first front ih =>
    obtain ⟨other, old⟩ := first
    by_cases hother : other = key <;> simp [get?, hother, ih]

theorem get?_eq_of_perm {front back : Keyed κ ν} (hperm : front.Perm back)
    (hsame : ∀ x ∈ front, ∀ y ∈ front, x.1 = y.1 → x = y) (key : κ) :
    get? key front = get? key back := by
  cases hfront : get? key front with
  | none =>
    cases hback : get? key back with
    | none => rfl
    | some value =>
      obtain ⟨first, hfirst⟩ := exists_get?_of_mem (hperm.mem_iff.mpr (mem_of_get? hback))
      rw [hfront] at hfirst
      simp at hfirst
  | some value =>
    have hmem := mem_of_get? hfront
    obtain ⟨other, hother⟩ := exists_get?_of_mem (hperm.mem_iff.mp hmem)
    have heq := hsame _ hmem _ (hperm.mem_iff.mpr (mem_of_get? hother)) rfl
    rw [hother, (Prod.mk.inj heq).2]

theorem keys_set (key : κ) (value : ν) (entries : Keyed κ ν) :
    (set key value entries).map Prod.fst =
      if key ∈ entries.map Prod.fst then entries.map Prod.fst
      else entries.map Prod.fst ++ [key] := by
  induction entries with
  | nil => simp [set]
  | cons first entries ih =>
    obtain ⟨other, old⟩ := first
    rw [set]
    by_cases hother : other = key
    · simp [hother]
    · rw [if_neg hother, List.map_cons, ih]
      by_cases hmem : key ∈ entries.map Prod.fst
      · simp [hmem]
      · simp [hmem, Ne.symm hother]

def OneEach (entries : Keyed κ ν) : Prop := (entries.map Prod.fst).Nodup

instance (entries : Keyed κ ν) : Decidable (OneEach entries) :=
  inferInstanceAs (Decidable (entries.map Prod.fst).Nodup)

theorem OneEach.set (h : OneEach entries) (key : κ) (value : ν) :
    OneEach (set key value entries) := by
  unfold OneEach at h ⊢
  rw [keys_set]
  split
  · exact h
  · rename_i hmem
    exact List.Nodup.append h (List.nodup_singleton key) (by simpa using hmem)

theorem OneEach.mem_iff (h : OneEach entries) :
    (key, value) ∈ entries ↔ get? key entries = some value := by
  refine ⟨fun hmem => ?_, mem_of_get?⟩
  induction entries with
  | nil => simp at hmem
  | cons first entries ih =>
    obtain ⟨other, old⟩ := first
    obtain ⟨hother, hrest⟩ := List.nodup_cons.mp h
    rw [get?]
    rcases List.mem_cons.mp hmem with heq | hmem
    · obtain ⟨rfl, rfl⟩ := Prod.mk.inj heq
      rw [if_pos rfl]
    · have hne : other ≠ key := by
        rintro rfl
        exact hother (List.mem_map.mpr ⟨_, hmem, rfl⟩)
      rw [if_neg hne]
      exact ih hrest hmem

theorem OneEach.mem_set_iff (h : OneEach entries) {pair : κ × ν} :
    pair ∈ Keyed.set key value entries ↔ pair = (key, value) ∨ pair ∈ entries ∧ pair.1 ≠ key := by
  obtain ⟨other, old⟩ := pair
  rw [(h.set key value).mem_iff, get?_set, h.mem_iff]
  by_cases hother : key = other
  · simp [hother, eq_comm]
  · simp [hother, Ne.symm hother]

def setAll (pairs entries : Keyed κ ν) : Keyed κ ν :=
  pairs.foldl (fun entries pair => set pair.1 pair.2 entries) entries

theorem setAll_cons (pair : κ × ν) (pairs entries : Keyed κ ν) :
    setAll (pair :: pairs) entries = setAll pairs (set pair.1 pair.2 entries) := rfl

theorem OneEach.setAll (h : OneEach entries) (pairs : Keyed κ ν) :
    OneEach (setAll pairs entries) := by
  induction pairs generalizing entries with
  | nil => exact h
  | cons pair pairs ih => exact ih (h.set pair.1 pair.2)

theorem get?_setAll (key : κ) (pairs entries : Keyed κ ν) :
    get? key (setAll pairs entries) = (get? key pairs.reverse).or (get? key entries) := by
  induction pairs generalizing entries with
  | nil => rfl
  | cons pair pairs ih =>
    obtain ⟨other, value⟩ := pair
    rw [setAll_cons, ih, get?_set, List.reverse_cons, get?_append, Option.or_assoc]
    by_cases hother : other = key <;> simp [get?, hother]

theorem get?_setAll_eq_of_perm {pairs others : Keyed κ ν} (hperm : pairs.Perm others)
    (hsame : ∀ x ∈ pairs, ∀ y ∈ pairs, x.1 = y.1 → x = y) (key : κ) (entries : Keyed κ ν) :
    get? key (setAll pairs entries) = get? key (setAll others entries) := by
  have hreverse : pairs.reverse.Perm others.reverse :=
    (List.reverse_perm pairs).trans (hperm.trans (List.reverse_perm others).symm)
  rw [get?_setAll, get?_setAll, get?_eq_of_perm hreverse _ key]
  intro x hx y hy
  exact hsame x (List.mem_reverse.mp hx) y (List.mem_reverse.mp hy)

theorem setAll_perm {pairs others : Keyed κ ν} (hperm : pairs.Perm others)
    (hsame : ∀ x ∈ pairs, ∀ y ∈ pairs, x.1 = y.1 → x = y) (hentries : OneEach entries) :
    (setAll pairs entries).Perm (setAll others entries) := by
  have hpairs := hentries.setAll pairs
  have hothers := hentries.setAll others
  rw [List.perm_ext_iff_of_nodup (List.Nodup.of_map _ hpairs) (List.Nodup.of_map _ hothers)]
  rintro ⟨key, value⟩
  rw [hpairs.mem_iff, hothers.mem_iff, get?_setAll_eq_of_perm hperm hsame]

inductive Resets (entries : Keyed κ ν) : Keyed κ ν → Prop
  | refl : Resets entries entries
  | set {after : Keyed κ ν} {key : κ} {old : ν} (value : ν) :
      Resets entries after → get? key after = some old → Resets entries (set key value after)

theorem Resets.nil_eq {after : Keyed κ ν} (h : Resets [] after) : after = [] := by
  induction h with
  | refl => rfl
  | set value _ hold ih =>
    subst ih
    simp [get?] at hold

theorem Resets.exists_cons {first : κ × ν} {after : Keyed κ ν}
    (h : Resets (first :: entries) after) :
    ∃ value rest, after = (first.1, value) :: rest ∧ Resets entries rest ∧
      get? first.1 rest = get? first.1 entries := by
  induction h with
  | refl => exact ⟨first.2, entries, rfl, .refl, rfl⟩
  | @set after key old new _ hold ih =>
    obtain ⟨value, rest, rfl, hrest, hsame⟩ := ih
    rw [Keyed.set]
    by_cases hkey : first.1 = key
    · rw [if_pos hkey, ← hkey]
      exact ⟨new, rest, rfl, hrest, hsame⟩
    · rw [get?, if_neg hkey] at hold
      rw [if_neg hkey]
      refine ⟨value, _, rfl, .set new hrest hold, ?_⟩
      rw [get?_set, if_neg (Ne.symm hkey), hsame]

theorem Resets.eq {after : Keyed κ ν} (h : Resets entries after)
    (hsame : ∀ key, get? key after = get? key entries) : after = entries := by
  induction entries generalizing after with
  | nil => exact h.nil_eq
  | cons first entries ih =>
    obtain ⟨name, old⟩ := first
    obtain ⟨value, rest, rfl, hrest, hshadowed⟩ := h.exists_cons
    have hvalue := hsame name
    rw [get?, get?, if_pos rfl, if_pos rfl] at hvalue
    have htail : ∀ key, get? key rest = get? key entries := by
      intro key
      by_cases hkey : name = key
      · rw [← hkey, hshadowed]
      · have hother := hsame key
        rwa [get?, get?, if_neg hkey, if_neg hkey] at hother
    rw [ih hrest htail, Option.some.inj hvalue]

theorem resets_setAll {pairs entries after : Keyed κ ν} (hentries : Resets entries after)
    (hthere : ∀ pair ∈ pairs, ∃ old, get? pair.1 after = some old) :
    Resets entries (setAll pairs after) := by
  induction pairs generalizing after with
  | nil => exact hentries
  | cons pair pairs ih =>
    obtain ⟨⟨old, hold⟩, hpairs⟩ := List.forall_mem_cons.mp hthere
    rw [setAll_cons]
    apply ih (hentries.set pair.2 hold)
    intro other hother
    rw [get?_set]
    split
    · exact ⟨pair.2, rfl⟩
    · exact hpairs other hother

theorem setAll_setAll (pairs entries : Keyed κ ν) :
    setAll pairs (setAll pairs entries) = setAll pairs entries := by
  apply Resets.eq
  · apply resets_setAll .refl
    intro pair hpair
    obtain ⟨last, hlast⟩ := exists_get?_of_mem (List.mem_reverse.mpr hpair)
    exact ⟨last, by rw [get?_setAll, hlast, Option.some_or]⟩
  · intro key
    rw [get?_setAll, get?_setAll, ← Option.or_assoc, Option.or_self]

end Keyed

end EnumExport
