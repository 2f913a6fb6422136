import Mathlib.Data.List.Forall2

/-! Outcomes: when a chain of steps that may fail comes to a result. -/
namespace ReviewContext.Outcome

variable {ε ε' α β : Type}

@[simp] theorem isOk_ok (a : α) : (.ok a : Except ε α).isOk = true := rfl

@[simp] theorem isOk_error (e : ε) : (.error e : Except ε α).isOk = false := rfl

@[simp] theorem bind_eq_ok_iff {x : Except ε α} {f : α → Except ε β} {b : β} :
    x >>= f = .ok b ↔ ∃ a, x = .ok a ∧ f a = .ok b := by
  cases x <;> simp [bind, Except.bind]

@[simp] theorem map_eq_ok_iff {x : Except ε α} {f : α → β} {b : β} :
    x.map f = .ok b ↔ ∃ a, x = .ok a ∧ f a = b := by
  cases x <;> simp [Except.map]

@[simp] theorem mapError_eq_ok_iff {x : Except ε α} {f : ε → ε'} {a : α} :
    x.mapError f = .ok a ↔ x = .ok a := by
  cases x <;> simp [Except.mapError]

theorem mapM_eq_ok_iff {f : α → Except ε β} {xs : List α} {ys : List β} :
    xs.mapM f = .ok ys ↔ List.Forall₂ (fun x y => f x = .ok y) xs ys := by
  induction xs generalizing ys with
  | nil => simp [pure, Except.pure, eq_comm]
  | cons x xs ih =>
    rw [List.mapM_cons, bind_eq_ok_iff]
    simp only [bind_eq_ok_iff, ih, pure, Except.pure, Except.ok.injEq]
    constructor
    · rintro ⟨y, hy, ys, hys, rfl⟩
      exact .cons hy hys
    · rintro (_ | ⟨hy, hys⟩)
      exact ⟨_, hy, _, hys, rfl⟩

theorem mapM_eq_ok_map {f : α → Except ε β} {g : α → β} {xs : List α}
    (h : ∀ x ∈ xs, f x = .ok (g x)) :
    xs.mapM f = .ok (xs.map g) := by
  rw [mapM_eq_ok_iff, List.forall₂_map_right_iff, List.forall₂_same]
  exact h

/-- A walk over a list fails by the first step that does. -/
theorem first_of_mapM_eq_error {f : α → Except ε β} {xs : List α} {e : ε}
    (h : xs.mapM f = .error e) :
    ∃ before x after, xs = before ++ x :: after ∧ (∀ y ∈ before, ∃ z, f y = .ok z) ∧
      f x = .error e := by
  induction xs with
  | nil => contradiction
  | cons x xs ih =>
    rw [List.mapM_cons] at h
    cases step : f x with
    | error other =>
      rw [step] at h
      change Except.error other = _ at h
      exact ⟨[], x, xs, rfl, nofun, step.trans (congrArg Except.error (Except.error.inj h))⟩
    | ok y =>
      rw [step] at h
      change (xs.mapM f >>= fun ys => .ok (y :: ys)) = _ at h
      cases rest : xs.mapM f with
      | ok ys =>
        rw [rest] at h
        contradiction
      | error other =>
        rw [rest] at h
        obtain ⟨before, other, after, rfl, made, failed⟩ :=
          ih (rest.trans (congrArg Except.error (Except.error.inj h)))
        exact ⟨x :: before, other, after, rfl, List.forall_mem_cons.mpr ⟨⟨y, step⟩, made⟩, failed⟩

theorem exists_of_mapM_eq_error {f : α → Except ε β} {xs : List α} {e : ε}
    (h : xs.mapM f = .error e) :
    ∃ x ∈ xs, f x = .error e := by
  obtain ⟨before, x, after, rfl, -, failed⟩ := first_of_mapM_eq_error h
  exact ⟨x, List.mem_append_right _ List.mem_cons_self, failed⟩

theorem exists_mapM_eq_ok {f : α → Except ε β} {xs : List α} (h : ∀ x ∈ xs, ∃ y, f x = .ok y) :
    ∃ ys, xs.mapM f = .ok ys := by
  cases walk : xs.mapM f with
  | ok ys => exact ⟨ys, rfl⟩
  | error e =>
    obtain ⟨x, inside, failed⟩ := exists_of_mapM_eq_error walk
    obtain ⟨y, made⟩ := h x inside
    rw [made] at failed
    contradiction

end ReviewContext.Outcome
