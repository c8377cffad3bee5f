import EnumExport.Proofs.Reading.Spelling
import EnumExport.Proofs.Script.ReadBack
import Mathlib.Data.List.Chain
import Mathlib.Data.Set.Function

/-!
Constant names apart: a name in camel case can be restored from its constant name, since an
underscore in front of a capital was put there and every other letter was a small one. So different
names in camel case give different constants.
-/

namespace EnumExport

instance (more : Char → Bool) (name : List Char) : Decidable (IsSpelled more name) :=
  match name with
  | [] => isFalse fun h => h.ne_nil rfl
  | first :: rest =>
    decidable_of_iff (isNameStart first = true ∧ ∀ c ∈ rest, more c = true)
      ⟨fun h => ⟨first, rest, rfl, h⟩, fun ⟨_, _, heq, h⟩ => by
        obtain ⟨rfl, rfl⟩ := List.cons.inj heq
        exact h⟩

/-- ASCII identifiers that do not start with a capital, and in which no underscore is directly in
front of a small letter. -/
structure IsCamelCase (name : List Char) : Prop where
  spelled : IsSpelled isAsciiWord name
  head_small : ∀ c ∈ name.head?, c.isUpper = false
  apart : name.IsChain fun a b => a = '_' → b.isLower = false

instance (name : List Char) : Decidable (IsCamelCase name) :=
  decidable_of_iff (IsSpelled isAsciiWord name ∧ (∀ c ∈ name.head?.toList, c.isUpper = false) ∧
      name.IsChain fun a b => a = '_' → b.isLower = false)
    ⟨fun h => ⟨h.1, fun c hc => h.2.1 c (Option.mem_toList.mpr hc), h.2.2⟩,
      fun h => ⟨h.spelled, fun c hc => h.head_small c (Option.mem_toList.mp hc), h.apart⟩⟩

theorem constantPart_capital {c : Char} (hword : isAsciiWord c = true) (h : c.isUpper = true) :
    constantPart c = ['_', c] := by
  have hc := toNat_lt_of_isAsciiWord hword
  revert h
  exact forall_ascii (p := fun c => c.isUpper = true → constantPart c = ['_', c]) (by decide) hc

structure IsPlainPart (c : Char) : Prop where
  upper_eq : upper c = [c.toUpper]
  part_eq : constantPart c = [c.toUpper]
  toLower_toUpper : c.toUpper.toLower = c
  eq_underscore : c.toUpper = '_' → c = '_'
  isLower_of_isUpper : c.toUpper.isUpper = true → c.isLower = true

theorem isPlainPart {c : Char} (hword : isAsciiWord c = true) (h : c.isUpper = false) :
    IsPlainPart c := by
  have hc := toNat_lt_of_isAsciiWord hword
  have hall := forall_ascii (p := fun c => c.isUpper = false → upper c = [c.toUpper] ∧
    constantPart c = [c.toUpper] ∧ c.toUpper.toLower = c ∧ (c.toUpper = '_' → c = '_') ∧
    (c.toUpper.isUpper = true → c.isLower = true)) (by decide) hc h
  exact ⟨hall.1, hall.2.1, hall.2.2.1, hall.2.2.2.1, hall.2.2.2.2⟩

def restoredParts : List Char → List Char
  | [] => []
  | [c] => [c.toLower]
  | c :: d :: text =>
    if c = '_' ∧ d.isUpper then d :: restoredParts text else c.toLower :: restoredParts (d :: text)

def restoredName : List Char → List Char
  | [] => []
  | c :: text => c.toLower :: restoredParts text

theorem exists_small_of_flatMap {name text : List Char} {d : Char}
    (hword : ∀ c ∈ name, isAsciiWord c = true) (h : name.flatMap constantPart = d :: text)
    (hd : d.isUpper = true) : ∃ c rest, name = c :: rest ∧ c.isLower = true := by
  cases name with
  | nil => simp at h
  | cons c name =>
    have hc := hword c (List.mem_cons_self ..)
    rw [List.flatMap_cons] at h
    cases hcapital : c.isUpper with
    | true =>
      rw [constantPart_capital hc hcapital, List.cons_append] at h
      obtain rfl := (List.cons.inj h).1
      exact absurd hd (by decide)
    | false =>
      have hplain := isPlainPart hc hcapital
      rw [hplain.part_eq, List.singleton_append] at h
      obtain rfl := (List.cons.inj h).1
      exact ⟨c, name, rfl, hplain.isLower_of_isUpper hd⟩

theorem restoredParts_flatMap {name : List Char} (hword : ∀ c ∈ name, isAsciiWord c = true)
    (hapart : name.IsChain fun a b => a = '_' → b.isLower = false) :
    restoredParts (name.flatMap constantPart) = name := by
  induction name with
  | nil => rfl
  | cons c name ih =>
    obtain ⟨hc, hname⟩ := List.forall_mem_cons.mp hword
    have hrest := ih hname hapart.tail
    rw [List.flatMap_cons]
    cases hcapital : c.isUpper with
    | true =>
      rw [constantPart_capital hc hcapital, List.cons_append, List.singleton_append,
        restoredParts, if_pos ⟨rfl, hcapital⟩, hrest]
    | false =>
      have hplain := isPlainPart hc hcapital
      rw [hplain.part_eq, List.singleton_append]
      cases htext : name.flatMap constantPart with
      | nil =>
        rw [htext] at hrest
        rw [← hrest, restoredParts, restoredParts, hplain.toLower_toUpper]
      | cons d text =>
        rw [restoredParts, if_neg, ← htext, hrest, hplain.toLower_toUpper]
        -- A capital behind an underscore of the name itself would be a small letter there.
        rintro ⟨hunderscore, hd⟩
        obtain ⟨b, rest, rfl, hsmall⟩ := exists_small_of_flatMap hname htext hd
        have hlarge := (List.isChain_cons_cons.mp hapart).1 (hplain.eq_underscore hunderscore)
        rw [hlarge] at hsmall
        exact absurd hsmall (by decide)

theorem restoredName_constantName {name : List Char} (h : IsCamelCase name) :
    restoredName (constantName name) = name := by
  obtain ⟨first, rest, rfl, hfirst, hrest⟩ := h.spelled
  have hword : isAsciiWord first = true := by
    have hstart := Bool.or_eq_true_iff.mp hfirst
    rw [isAsciiWord, Bool.or_eq_true_iff, Char.isAlphanum, Bool.or_eq_true_iff]
    exact hstart.imp_left Or.inl
  have hplain := isPlainPart hword (h.head_small first rfl)
  rw [constantName, hplain.upper_eq, List.singleton_append, restoredName,
    restoredParts_flatMap hrest h.apart.tail, hplain.toLower_toUpper]

theorem injOn_constantName : Set.InjOn constantName {name | IsCamelCase name} :=
  Set.LeftInvOn.injOn fun _ h => restoredName_constantName h

theorem nodup_constants {cases : List ResolvedCase} (hcamel : ∀ c ∈ cases, IsCamelCase c.name)
    (hnames : (cases.map ResolvedCase.name).Nodup) :
    (cases.map fun c => constantName c.name).Nodup := by
  have hmap : (cases.map fun c => constantName c.name) =
      (cases.map ResolvedCase.name).map constantName := by rw [List.map_map]; rfl
  rw [hmap]
  apply List.Nodup.map_on _ hnames
  intro name hname other hother
  obtain ⟨c, hc, rfl⟩ := List.mem_map.mp hname
  obtain ⟨d, hd, rfl⟩ := List.mem_map.mp hother
  exact injOn_constantName (hcamel c hc) (hcamel d hd)

/-- Different names in camel case have different constant names. So the script of an enum whose
cases have such names, no two of them alike, lists constants of which no two are alike. -/
theorem constants_apart :
    Set.InjOn constantName {name | IsCamelCase name} ∧
      ∀ (name : List Char) (cases : List ResolvedCase), (∀ c ∈ cases, IsCamelCase c.name) →
        (cases.map ResolvedCase.name).Nodup →
          (cases.map fun c => constantName c.name).Nodup ∧
            ∀ text, scriptText name cases = .ok text ↔
              (∀ c ∈ cases, c.IsPrintable) ∧ text = scriptOf name cases := by
  refine ⟨injOn_constantName, fun name cases hcamel hnames => ⟨?_, fun text => ?_⟩⟩
  · exact nodup_constants hcamel hnames
  · exact scriptText_eq_ok_iff

theorem constants_apart_sample :
    let cases : List ResolvedCase :=
      [⟨"aB".toList, 0⟩, ⟨"a_B".toList, 1⟩, ⟨"a_1B".toList, 2⟩, ⟨"_".toList, 3⟩, ⟨"__A".toList, 4⟩]
    (∀ c ∈ cases, IsCamelCase c.name) ∧ (cases.map ResolvedCase.name).Nodup ∧
      (cases.map fun c => constantName c.name).Nodup := by
  intro cases
  have hcamel : ∀ c ∈ cases, IsCamelCase c.name := by decide +kernel
  have hnames : (cases.map ResolvedCase.name).Nodup := by decide
  exact ⟨hcamel, hnames, (constants_apart.2 "N".toList cases hcamel hnames).1⟩

end EnumExport
