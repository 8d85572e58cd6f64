import Mathlib.Data.List.Forall2

/-! # Results that may fail

What it takes for a composed computation to succeed.
-/

namespace TextTable

variable {α β ε ε' : Type}

theorem bind_eq_ok_iff {x : Except ε α} {f : α → Except ε β} {b : β} :
    (x >>= f) = .ok b ↔ ∃ a, x = .ok a ∧ f a = .ok b := by
  cases x <;> simp [bind, Except.bind]

theorem map_eq_ok_iff {x : Except ε α} {f : α → β} {b : β} :
    x.map f = .ok b ↔ ∃ a, x = .ok a ∧ f a = b := by
  cases x <;> simp [Except.map]

theorem mapError_eq_ok_iff {x : Except ε α} {f : ε → ε'} {a : α} :
    x.mapError f = .ok a ↔ x = .ok a := by
  cases x <;> simp [Except.mapError]

theorem bind_eq_error_iff {x : Except ε α} {f : α → Except ε β} {e : ε} :
    (x >>= f) = .error e ↔ x = .error e ∨ ∃ a, x = .ok a ∧ f a = .error e := by
  cases x <;> simp [bind, Except.bind]

theorem map_eq_error_iff {x : Except ε α} {f : α → β} {e : ε} :
    x.map f = .error e ↔ x = .error e := by
  cases x <;> simp [Except.map]

theorem mapError_eq_error_iff {x : Except ε α} {f : ε → ε'} {e : ε'} :
    x.mapError f = .error e ↔ ∃ e', x = .error e' ∧ f e' = e := by
  cases x <;> simp [Except.mapError]

theorem exists_ok_iff {x : Except ε α} : (∃ a, x = .ok a) ↔ ∀ e, x ≠ .error e := by
  cases x <;> simp

theorem mapM_eq_ok_iff {f : α → Except ε β} {xs : List α} {ys : List β} :
    xs.mapM f = .ok ys ↔ List.Forall₂ (fun x y => f x = .ok y) xs ys := by
  induction xs generalizing ys with
  | nil => cases ys <;> simp [pure, Except.pure]
  | cons x xs ih =>
    rw [List.mapM_cons, bind_eq_ok_iff, List.forall₂_cons_left_iff]
    constructor
    · rintro ⟨y, hx, h⟩
      obtain ⟨ys', hxs, h⟩ := bind_eq_ok_iff.mp h
      exact ⟨y, ys', hx, ih.mp hxs, (Except.ok.inj h).symm⟩
    · rintro ⟨y, ys', hx, hxs, rfl⟩
      exact ⟨y, hx, bind_eq_ok_iff.mpr ⟨ys', ih.mpr hxs, rfl⟩⟩

theorem exists_of_mem_mapM {f : α → Except ε β} {xs : List α} {ys : List β}
    (h : xs.mapM f = .ok ys) {y : β} (hy : y ∈ ys) : ∃ x ∈ xs, f x = .ok y := by
  induction mapM_eq_ok_iff.mp h with
  | nil => contradiction
  | @cons x y' xs ys hx hxs ih =>
    rcases List.mem_cons.mp hy with rfl | hy
    · exact ⟨x, List.mem_cons_self, hx⟩
    · obtain ⟨x, hmem, hx⟩ := ih (mapM_eq_ok_iff.mpr hxs) hy
      exact ⟨x, List.mem_cons_of_mem _ hmem, hx⟩

theorem exists_getElem?_of_mapM {f : α → Except ε β} {xs : List α} {ys : List β}
    (h : xs.mapM f = .ok ys) {i : Nat} {x : α} (hx : xs[i]? = some x) :
    ∃ y, ys[i]? = some y ∧ f x = .ok y := by
  induction mapM_eq_ok_iff.mp h generalizing i with
  | nil => contradiction
  | @cons x' y xs ys hxy hxs ih =>
    cases i with
    | zero => cases hx; exact ⟨y, rfl, hxy⟩
    | succ i => exact ih (mapM_eq_ok_iff.mpr hxs) hx

theorem exists_mapM_eq_ok_iff {f : α → Except ε β} {xs : List α} :
    (∃ ys, xs.mapM f = .ok ys) ↔ ∀ x ∈ xs, ∃ y, f x = .ok y := by
  induction xs with
  | nil => simp [pure, Except.pure]
  | cons x xs ih =>
    rw [List.mapM_cons, List.forall_mem_cons, ← ih]
    cases f x <;> cases xs.mapM f <;> simp [bind, Except.bind, pure, Except.pure]

/-- A traversal ends with the error of the first step that fails. The steps are told apart by
numbers that grow along the list. -/
theorem mapM_eq_error_iff {f : α → Except ε β} {xs : List α} {e : ε} {key : α → Nat}
    (hkey : xs.Pairwise (key · < key ·)) :
    xs.mapM f = .error e ↔
      ∃ x ∈ xs, f x = .error e ∧ ∀ y ∈ xs, key y < key x → ∃ b, f y = .ok b := by
  induction xs with
  | nil => simp [pure, Except.pure]
  | cons x xs ih =>
    obtain ⟨hx, hxs⟩ := List.pairwise_cons.mp hkey
    rw [List.mapM_cons, bind_eq_error_iff]
    constructor
    · rintro (hfail | ⟨b, hok, h⟩)
      · refine ⟨x, List.mem_cons_self, hfail, fun y hy hlt => ?_⟩
        rcases List.mem_cons.mp hy with rfl | hy
        · exact absurd hlt (Nat.lt_irrefl _)
        · exact absurd (hx y hy) (Nat.lt_asymm hlt)
      · rcases bind_eq_error_iff.mp h with h | ⟨bs, -, h⟩
        · obtain ⟨y, hy, hfail, hmin⟩ := (ih hxs).mp h
          refine ⟨y, List.mem_cons_of_mem _ hy, hfail, List.forall_mem_cons.mpr ⟨?_, hmin⟩⟩
          exact fun _ => ⟨b, hok⟩
        · contradiction
    · rintro ⟨y, hy, hfail, hmin⟩
      rcases List.mem_cons.mp hy with rfl | hy
      · exact Or.inl hfail
      · obtain ⟨hfst, hmin⟩ := List.forall_mem_cons.mp hmin
        obtain ⟨b, hok⟩ := hfst (hx y hy)
        exact Or.inr ⟨b, hok, bind_eq_error_iff.mpr (Or.inl ((ih hxs).mpr ⟨y, hy, hfail, hmin⟩))⟩

theorem mapM_eq_ok_map {f : α → Except ε β} {g : α → β} {xs : List α}
    (h : ∀ x ∈ xs, f x = .ok (g x)) : xs.mapM f = .ok (xs.map g) := by
  rw [mapM_eq_ok_iff, List.forall₂_map_right_iff, List.forall₂_same]
  exact h

theorem mapM_eq_mapError {f : α → Except ε β} {f' : α → Except ε' β} {h : ε → ε'} {xs : List α}
    (hf : ∀ x ∈ xs, f' x = (f x).mapError h) : xs.mapM f' = (xs.mapM f).mapError h := by
  induction xs with
  | nil => rfl
  | cons x xs ih =>
    obtain ⟨hx, hxs⟩ := List.forall_mem_cons.mp hf
    rw [List.mapM_cons, List.mapM_cons, hx, ih hxs]
    cases f x with
    | error e => rfl
    | ok y => cases xs.mapM f <;> rfl

theorem exists_ok_of_any {x : Except ε α} {p : α → Bool} (h : x.toOption.any p = true) :
    ∃ a, x = .ok a ∧ p a = true := by
  cases x with
  | error e => contradiction
  | ok a => exact ⟨a, rfl, h⟩

end TextTable
