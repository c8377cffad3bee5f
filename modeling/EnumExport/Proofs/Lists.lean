import Mathlib.Data.List.Forall2

namespace EnumExport

variable {α β ε : Type}

/-- A claim about all items of a list is decided item by item, even where the type is finite. -/
instance (priority := high) decidableForallMem {p : α → Prop} [DecidablePred p] (xs : List α) :
    Decidable (∀ x ∈ xs, p x) :=
  List.decidableBAll p xs

theorem dropWhile_append_of_ne_nil {p : α → Bool} {xs : List α} (ys : List α)
    (h : xs.dropWhile p ≠ []) : (xs ++ ys).dropWhile p = xs.dropWhile p ++ ys := by
  rw [List.dropWhile_append, if_neg (by simpa using h)]

theorem takeWhile_append_of_dropWhile_ne_nil {p : α → Bool} {xs : List α} (ys : List α)
    (h : xs.dropWhile p ≠ []) : (xs ++ ys).takeWhile p = xs.takeWhile p := by
  have hlt : (xs.takeWhile p).length ≠ xs.length := by
    intro he
    have hl := congrArg List.length (List.takeWhile_append_dropWhile (p := p) (l := xs))
    rw [List.length_append] at hl
    exact h (List.length_eq_zero_iff.mp (by omega))
  rw [List.takeWhile_append, if_neg hlt]

theorem takeWhile_append_cons {p : α → Bool} {y : α} (xs ys : List α) (hy : p y = false) :
    (xs ++ y :: ys).takeWhile p = xs.takeWhile p := by
  induction xs with
  | nil => simp [hy]
  | cons x xs ih => by_cases hx : p x = true <;> simp [hx, ih]

theorem dropWhile_append_cons {p : α → Bool} {y : α} (xs ys : List α) (hy : p y = false) :
    (xs ++ y :: ys).dropWhile p = xs.dropWhile p ++ y :: ys := by
  induction xs with
  | nil => simp [hy]
  | cons x xs ih => by_cases hx : p x = true <;> simp [hx, ih]

theorem takeWhile_append_of_stop {p : α → Bool} {xs ys : List α} (hxs : ∀ x ∈ xs, p x = true)
    (hys : ∀ y ∈ ys.head?, p y = false) : (xs ++ ys).takeWhile p = xs := by
  rw [List.takeWhile_append_of_pos hxs]
  cases ys with
  | nil => simp
  | cons y ys =>
    have hy := hys y rfl
    simp [hy]

theorem dropWhile_append_of_stop {p : α → Bool} {xs ys : List α} (hxs : ∀ x ∈ xs, p x = true)
    (hys : ∀ y ∈ ys.head?, p y = false) : (xs ++ ys).dropWhile p = ys := by
  rw [List.dropWhile_append_of_pos hxs]
  cases ys with
  | nil => rfl
  | cons y ys =>
    have hy := hys y rfl
    simp [hy]

theorem forall_mem_head?_cons {p : α → Prop} {x : α} (xs : List α) (h : p x) :
    ∀ y ∈ (x :: xs).head?, p y := by
  intro y hy
  obtain rfl := Option.some.inj hy
  exact h

theorem prefix_of_not_mem {xs front back : List α} {y : α} (h : xs <+: front ++ y :: back)
    (hy : y ∉ xs) : xs <+: front := by
  rcases List.prefix_or_prefix_of_prefix h (List.prefix_append front (y :: back)) with hxs | hfront
  · exact hxs
  · obtain ⟨tail, rfl⟩ := hfront
    cases tail with
    | nil => simp
    | cons z tail =>
      obtain ⟨rfl, -⟩ := List.cons_prefix_cons.mp ((List.prefix_append_right_inj front).mp h)
      simp at hy

theorem append_eq_append_cons {xs ys front back : List α} {y : α}
    (h : xs ++ ys = front ++ y :: back) :
    (∃ middle, xs = front ++ y :: middle ∧ back = middle ++ ys) ∨
      ∃ middle, front = xs ++ middle ∧ ys = middle ++ y :: back := by
  rcases List.append_eq_append_iff.mp h with ⟨middle, hfront, hys⟩ | ⟨middle, hxs, hback⟩
  · exact .inr ⟨middle, hfront, hys⟩
  · cases middle with
    | nil => exact .inr ⟨[], by simpa using hxs.symm, by simpa using hback.symm⟩
    | cons z middle =>
      obtain ⟨rfl, rfl⟩ := List.cons.inj hback
      exact .inl ⟨middle, hxs, rfl⟩

theorem append_cons_inj_of_not_mem {xs ys rest more : List α} {mark : α}
    (hxs : mark ∉ xs) (hys : mark ∉ ys) (h : xs ++ mark :: rest = ys ++ mark :: more) :
    xs = ys ∧ rest = more := by
  induction xs generalizing ys with
  | nil =>
    cases ys with
    | nil => exact ⟨rfl, (List.cons.inj h).2⟩
    | cons y ys => exact absurd ((List.cons.inj h).1 ▸ List.mem_cons_self ..) hys
  | cons x xs ih =>
    cases ys with
    | nil => exact absurd ((List.cons.inj h).1 ▸ List.mem_cons_self ..) hxs
    | cons y ys =>
      obtain ⟨rfl, hrest⟩ := List.cons.inj h
      rw [List.mem_cons, not_or] at hxs hys
      obtain ⟨rfl, rfl⟩ := ih hxs.2 hys.2 hrest
      exact ⟨rfl, rfl⟩

theorem append_cons_inj_of_not_mem_right {xs ys rest more : List α} {mark : α}
    (hrest : mark ∉ rest) (hmore : mark ∉ more) (h : xs ++ mark :: rest = ys ++ mark :: more) :
    xs = ys ∧ rest = more := by
  have hreverse := congrArg List.reverse h
  simp only [List.reverse_append, List.reverse_cons, List.append_assoc, List.singleton_append]
    at hreverse
  obtain ⟨hback, hfront⟩ := append_cons_inj_of_not_mem (by simpa using hrest)
    (by simpa using hmore) hreverse
  exact ⟨List.reverse_injective hfront, List.reverse_injective hback⟩

theorem forall₂_filter_filterMap (f : α → Option β) (xs : List α) :
    List.Forall₂ (fun x y => f x = some y) (xs.filter fun x => (f x).isSome) (xs.filterMap f) := by
  induction xs with
  | nil => exact .nil
  | cons x xs ih =>
    cases hx : f x with
    | none => simpa [hx] using ih
    | some y => simpa [hx] using ih

theorem forall₂_comp {γ : Type} {R : α → β → Prop} {S : β → γ → Prop} {xs : List α} {ys : List β}
    {zs : List γ} (h : List.Forall₂ R xs ys) (h' : List.Forall₂ S ys zs) :
    List.Forall₂ (fun x z => ∃ y, R x y ∧ S y z) xs zs := by
  induction h generalizing zs with
  | nil =>
    cases h'
    exact .nil
  | cons hxy _ ih =>
    cases h' with
    | cons hyz hrest => exact .cons ⟨_, hxy, hyz⟩ (ih hrest)

theorem forall₂_filterMap_right {γ : Type} {R : α → β → Prop} {S : α → γ → Prop}
    {f : β → Option γ} {xs : List α} {ys : List β} (h : List.Forall₂ R xs ys)
    (hf : ∀ x y, R x y → ∃ z, f y = some z ∧ S x z) : List.Forall₂ S xs (ys.filterMap f) := by
  induction h with
  | nil => exact .nil
  | cons hxy _ ih =>
    obtain ⟨z, hz, hxz⟩ := hf _ _ hxy
    rw [List.filterMap_cons, hz]
    exact .cons hxz ih

theorem exists_mem_of_forall₂ {R : α → β → Prop} {xs : List α} {ys : List β} {x : α}
    (h : List.Forall₂ R xs ys) (hx : x ∈ xs) : ∃ y ∈ ys, R x y := by
  induction h with
  | nil => simp at hx
  | cons hxy _ ih =>
    rcases List.mem_cons.mp hx with rfl | hx
    · exact ⟨_, List.mem_cons_self .., hxy⟩
    · obtain ⟨y, hy, hxy⟩ := ih hx
      exact ⟨y, List.mem_cons_of_mem _ hy, hxy⟩

theorem exists_append_cons_of_forall₂ {R : α → β → Prop} {xs : List α} {before after : List β}
    {y : β} (h : List.Forall₂ R xs (before ++ y :: after)) :
    ∃ front x back, xs = front ++ x :: back ∧ List.Forall₂ R front before ∧ R x y := by
  induction before generalizing xs with
  | nil =>
    obtain ⟨x, back, hxy, -, rfl⟩ := List.forall₂_cons_right_iff.mp h
    exact ⟨[], x, back, rfl, .nil, hxy⟩
  | cons z before ih =>
    obtain ⟨w, rest, hwz, hrest, rfl⟩ := List.forall₂_cons_right_iff.mp h
    obtain ⟨front, x, back, rfl, hfront, hxy⟩ := ih hrest
    exact ⟨w :: front, x, back, rfl, .cons hwz hfront, hxy⟩

theorem mapM_eq_ok_iff {f : α → Except ε β} {xs : List α} {ys : List β} :
    xs.mapM f = .ok ys ↔ List.Forall₂ (fun x y => f x = .ok y) xs ys := by
  induction xs generalizing ys with
  | nil => simp [pure, Except.pure, eq_comm]
  | cons x xs ih =>
    rw [List.mapM_cons, List.forall₂_cons_left_iff]
    cases hx : f x with
    | error e => simp [bind, Except.bind]
    | ok y =>
      cases hxs : xs.mapM f with
      | error e =>
        have : ∀ ys, ¬ List.Forall₂ (fun x y => f x = .ok y) xs ys := fun ys h => by
          simpa [hxs] using ih.mpr h
        simp [bind, Except.bind, this]
      | ok ys' =>
        simp only [bind, Except.bind, pure, Except.pure, Except.ok.injEq]
        constructor
        · rintro rfl
          exact ⟨y, ys', rfl, ih.mp hxs, rfl⟩
        · rintro ⟨y, ys'', rfl, hys, rfl⟩
          rw [hxs.symm.trans (ih.mpr hys) |> Except.ok.inj]

theorem exists_ok_of_mem_mapM {f : α → Except ε β} {xs : List α} {ys : List β} {x : α}
    (h : xs.mapM f = .ok ys) (hx : x ∈ xs) : ∃ y ∈ ys, f x = .ok y := by
  rw [mapM_eq_ok_iff] at h
  induction h with
  | nil => simp at hx
  | cons hy _ ih =>
    rcases List.mem_cons.mp hx with rfl | hx
    · exact ⟨_, List.mem_cons_self .., hy⟩
    · obtain ⟨z, hz, hfz⟩ := ih hx
      exact ⟨z, List.mem_cons_of_mem _ hz, hfz⟩

theorem exists_mem_of_mem_mapM {f : α → Except ε β} {xs : List α} {ys : List β} {y : β}
    (h : xs.mapM f = .ok ys) (hy : y ∈ ys) : ∃ x ∈ xs, f x = .ok y := by
  rw [mapM_eq_ok_iff] at h
  induction h with
  | nil => simp at hy
  | cons hx _ ih =>
    rcases List.mem_cons.mp hy with rfl | hy
    · exact ⟨_, List.mem_cons_self .., hx⟩
    · obtain ⟨z, hz, hfz⟩ := ih hy
      exact ⟨z, List.mem_cons_of_mem _ hz, hfz⟩

theorem exists_mapM_ok_iff {f : α → Except ε β} {xs : List α} :
    (∃ ys, xs.mapM f = .ok ys) ↔ ∀ x ∈ xs, ∃ y, f x = .ok y := by
  constructor
  · rintro ⟨ys, h⟩ x hx
    obtain ⟨y, -, hy⟩ := exists_ok_of_mem_mapM h hx
    exact ⟨y, hy⟩
  · intro h
    induction xs with
    | nil => exact ⟨[], rfl⟩
    | cons x xs ih =>
      obtain ⟨y, hy⟩ := h x (List.mem_cons_self ..)
      obtain ⟨ys, hys⟩ := ih fun z hz => h z (List.mem_cons_of_mem _ hz)
      exact ⟨y :: ys, mapM_eq_ok_iff.mpr (.cons hy (mapM_eq_ok_iff.mp hys))⟩

theorem mapM_eq_error_iff {f : α → Except ε β} {xs : List α} {e : ε} :
    xs.mapM f = .error e ↔
      ∃ before x after, xs = before ++ x :: after ∧ (∀ y ∈ before, ∃ z, f y = .ok z) ∧
        f x = .error e := by
  induction xs with
  | nil => simp [pure, Except.pure]
  | cons x xs ih =>
    rw [List.mapM_cons]
    constructor
    · intro h
      cases hx : f x with
      | error other =>
        obtain rfl : other = e := by simpa [hx, bind, Except.bind] using h
        exact ⟨[], x, xs, rfl, by simp, hx⟩
      | ok y =>
        have hxs : xs.mapM f = .error e := by
          cases hm : xs.mapM f with
          | error other => simpa [hx, hm, bind, Except.bind] using h
          | ok ys => simp [hx, hm, bind, Except.bind, pure, Except.pure] at h
        obtain ⟨before, z, after, rfl, hbefore, hz⟩ := ih.mp hxs
        exact ⟨x :: before, z, after, rfl, List.forall_mem_cons.mpr ⟨⟨y, hx⟩, hbefore⟩, hz⟩
    · rintro ⟨before, z, after, hsplit, hbefore, hz⟩
      cases before with
      | nil =>
        obtain ⟨rfl, rfl⟩ := List.cons.inj hsplit
        rw [hz]
        rfl
      | cons y before =>
        obtain ⟨rfl, rfl⟩ := List.cons.inj hsplit
        obtain ⟨w, hw⟩ := hbefore x (List.mem_cons_self ..)
        have hrest := ih.mpr ⟨before, z, after, rfl,
          fun y hy => hbefore y (List.mem_cons_of_mem _ hy), hz⟩
        rw [hw, hrest]
        rfl

theorem exists_mapM_error_iff {f : α → Except ε β} {xs : List α} :
    (∃ error, xs.mapM f = .error error) ↔ ∃ x ∈ xs, ∃ error, f x = .error error := by
  constructor
  · rintro ⟨error, h⟩
    obtain ⟨before, x, after, rfl, -, hx⟩ := mapM_eq_error_iff.mp h
    exact ⟨x, by simp, error, hx⟩
  · rintro ⟨x, hmem, error, hx⟩
    cases hm : xs.mapM f with
    | error other => exact ⟨other, rfl⟩
    | ok ys =>
      obtain ⟨y, -, hy⟩ := exists_ok_of_mem_mapM hm hmem
      simp [hx] at hy

theorem exists_of_map_ok {f : α → β} {outcome : Except ε α} {y : β}
    (h : outcome.map f = .ok y) : ∃ x, outcome = .ok x ∧ f x = y := by
  cases outcome with
  | error error => simp [Except.map] at h
  | ok x => exact ⟨x, rfl, Except.ok.inj h⟩

theorem mapM_congr {f g : α → Except ε β} {xs : List α} (h : ∀ x ∈ xs, f x = g x) :
    xs.mapM f = xs.mapM g := by
  induction xs with
  | nil => rfl
  | cons x xs ih =>
    obtain ⟨hx, hxs⟩ := List.forall_mem_cons.mp h
    rw [List.mapM_cons, List.mapM_cons, hx, ih hxs]

theorem mapM_append_ok {f : α → Except ε β} {xs : List α} {ys : List β}
    (zs : List α) (h : xs.mapM f = .ok ys) :
    (xs ++ zs).mapM f = (zs.mapM f).map (ys ++ ·) := by
  rw [List.mapM_append, h]
  cases zs.mapM f <;> rfl

theorem mapM_flatMap_ok {σ γ : Type} {f : γ → Except ε β} {pieces : α → List γ}
    {results : σ → List β} {xs : List α} {ss : List σ}
    (h : List.Forall₂ (fun x s => (pieces x).mapM f = .ok (results s)) xs ss) :
    (xs.flatMap pieces).mapM f = .ok (ss.flatMap results) := by
  induction h with
  | nil => rfl
  | cons hx _ ih =>
    rw [List.flatMap_cons, mapM_append_ok _ hx, ih, List.flatMap_cons]
    rfl

theorem mapM_map_of_comm {f : α → Except ε β} {move : α → α} {e : ε → ε} {d : β → β}
    (h : ∀ x, f (move x) = ((f x).mapError e).map d) (xs : List α) :
    (xs.map move).mapM f = ((xs.mapM f).mapError e).map (List.map d) := by
  induction xs with
  | nil => rfl
  | cons x xs ih =>
    rw [List.map_cons, List.mapM_cons, List.mapM_cons, ih, h]
    cases f x with
    | error e => rfl
    | ok y => cases xs.mapM f <;> rfl

theorem map_mapM_eq {α' γ : Type} {f : α → Except ε β} {f' : α' → Except ε β} {view : β → γ}
    {xs : List α} {ys : List α'}
    (h : List.Forall₂ (fun x y => (f x).map view = (f' y).map view) xs ys) :
    (xs.mapM f).map (List.map view) = (ys.mapM f').map (List.map view) := by
  induction h with
  | nil => rfl
  | @cons x y xs ys hxy _ ih =>
    rw [List.mapM_cons, List.mapM_cons]
    cases hx : f x <;> cases hy : f' y <;> cases hxs : xs.mapM f <;> cases hys : ys.mapM f' <;>
      simp_all [Except.map, bind, Except.bind, pure, Except.pure]

end EnumExport
