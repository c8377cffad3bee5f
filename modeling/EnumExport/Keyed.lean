namespace EnumExport

abbrev Keyed (κ ν : Type) := List (κ × ν)

namespace Keyed

variable {κ ν : Type} [DecidableEq κ]

def get? (key : κ) : Keyed κ ν → Option ν
  | [] => none
  | (other, value) :: entries => if other = key then some value else get? key entries

def set (key : κ) (value : ν) : Keyed κ ν → Keyed κ ν
  | [] => [(key, value)]
  | (other, old) :: entries =>
    if other = key then (key, value) :: entries else (other, old) :: set key value entries

theorem get?_set (key other : κ) (value : ν) (entries : Keyed κ ν) :
    get? other (set key value entries) =
      if key = other then some value else get? other entries := by
  induction entries with
  | nil => simp [set, get?]
  | cons first entries ih =>
    obtain ⟨k, v⟩ := first
    by_cases hk : k = key
    · subst hk
      by_cases h : k = other <;> simp [set, get?, h]
    · by_cases h : k = other
      · subst h
        simp [set, get?, hk, Ne.symm hk]
      · simp [set, get?, hk, h, ih]

end Keyed

end EnumExport
