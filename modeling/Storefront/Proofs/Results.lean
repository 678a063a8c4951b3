import Mathlib.Data.List.Forall2
/-!
# Results — values and errors of two runs

A reader yields a value or an error. Two results are alike when both are
values, related in some way, or both are errors, whatever these say
(`Alike`): the notion for readers that are told apart by their errors only.
-/

namespace Storefront

variable {ε α β γ δ : Type}

theorem bind_eq_ok_iff {x : Except ε α} {next : α → Except ε β} {y : β} :
    (x >>= next) = .ok y ↔ ∃ v, x = .ok v ∧ next v = .ok y := by
  cases x <;> simp [bind, Except.bind]

theorem map_eq_ok_iff {x : Except ε α} {f : α → β} {y : β} :
    x.map f = .ok y ↔ ∃ v, x = .ok v ∧ f v = y := by
  cases x <;> simp [Except.map]

theorem forM_eq_ok_iff {xs : List α} {check : α → Except ε Unit} :
    xs.forM check = .ok () ↔ ∀ x ∈ xs, check x = .ok () := by
  induction xs with
  | nil => simp [pure, Except.pure]
  | cons x xs ih =>
    rw [List.forM_eq_forM] at ih ⊢
    rw [List.forM_cons, bind_eq_ok_iff, List.forall_mem_cons, ← ih]
    exact ⟨fun ⟨⟨⟩, hcheck, hrest⟩ => ⟨hcheck, hrest⟩, fun ⟨hcheck, hrest⟩ => ⟨(), hcheck, hrest⟩⟩

/-- Reading is undone item by item. -/
theorem mapM_map_eq_some {f : α → β} {g : β → Option α} {xs : List α}
    (h : ∀ x ∈ xs, g (f x) = some x) : (xs.map f).mapM g = some xs := by
  induction xs with
  | nil => rfl
  | cons x xs ih =>
    have hx := h x List.mem_cons_self
    have ih := ih fun y hy => h y (List.mem_cons_of_mem _ hy)
    simp [List.mapM_cons, hx, ih]

/-- A list is read when all its items are. -/
theorem exists_of_mapM_eq_ok {f : α → Except ε β} {xs : List α} {ys : List β}
    (h : xs.mapM f = .ok ys) : ∀ x ∈ xs, ∃ y, f x = .ok y := by
  induction xs generalizing ys with
  | nil => simp
  | cons x xs ih =>
    rw [List.mapM_cons] at h
    obtain ⟨y, hx, h⟩ := bind_eq_ok_iff.1 h
    obtain ⟨rest, hxs, -⟩ := bind_eq_ok_iff.1 h
    exact List.forall_mem_cons.2 ⟨⟨y, hx⟩, ih hxs⟩

/-- **Results that are alike**: two related values, or two errors. -/
inductive Alike (R : α → β → Prop) : Except ε α → Except ε β → Prop
  | ok {a : α} {b : β} : R a b → Alike R (.ok a) (.ok b)
  | error (e e' : ε) : Alike R (.error e) (.error e')

namespace Alike

variable {R R' : α → β → Prop} {S : γ → δ → Prop} {x : Except ε α} {y : Except ε β}

theorem mono (h : Alike R x y) (hR : ∀ a b, R a b → R' a b) : Alike R' x y := by
  cases h with
  | ok hab => exact .ok (hR _ _ hab)
  | error e e' => exact .error e e'

/-- A result is alike to itself where the relation is reflexive. -/
theorem refl {R : α → α → Prop} (hR : ∀ a, R a a) (x : Except ε α) : Alike R x x := by
  cases x with
  | ok a => exact .ok (hR a)
  | error e => exact .error e e

/-- What the values are may be used along with how they are related. -/
theorem and_eq (h : Alike R x y) : Alike (fun a b => R a b ∧ x = .ok a ∧ y = .ok b) x y := by
  cases h with
  | ok hab => exact .ok ⟨hab, rfl, rfl⟩
  | error e e' => exact .error e e'

/-- **Results stay alike** under steps that are alike on related values. -/
theorem bind (h : Alike R x y) {f : α → Except ε γ} {g : β → Except ε δ}
    (hfg : ∀ a b, R a b → Alike S (f a) (g b)) : Alike S (x >>= f) (y >>= g) := by
  cases h with
  | ok hab => exact hfg _ _ hab
  | error e e' => exact .error e e'

theorem map (h : Alike R x y) {f : α → γ} {g : β → δ} (hfg : ∀ a b, R a b → S (f a) (g b)) :
    Alike S (x.map f) (y.map g) := by
  cases h with
  | ok hab => exact .ok (hfg _ _ hab)
  | error e e' => exact .error e e'

/-- Checks are alike when one passes with the other. -/
theorem of_iff {x y : Except ε Unit} (h : x = .ok () ↔ y = .ok ()) :
    Alike (fun _ _ => True) x y := by
  cases x with
  | ok u =>
    rw [h.1 rfl]
    exact .ok trivial
  | error e =>
    cases y with
    | ok u => exact absurd (h.2 rfl) (by simp)
    | error e' => exact .error e e'

/-- What is seen of the values is the same. -/
theorem toOption_map {f : α → γ} {g : β → γ} (h : Alike (fun a b => f a = g b) x y) :
    x.toOption.map f = y.toOption.map g := by
  cases h with
  | ok hab => exact congrArg some hab
  | error e e' => rfl

/-- **Lists are alike item by item.** -/
theorem mapM {f : γ → Except ε α} {g : δ → Except ε β} {xs : List γ} {ys : List δ}
    (h : List.Forall₂ (fun v w => Alike R (f v) (g w)) xs ys) :
    Alike (List.Forall₂ R) (xs.mapM f) (ys.mapM g) := by
  induction h with
  | nil => exact .ok .nil
  | cons hhead _ ih =>
    rw [List.mapM_cons, List.mapM_cons]
    exact hhead.bind fun a b hab => ih.bind fun as bs hrest => .ok (.cons hab hrest)

end Alike

end Storefront
