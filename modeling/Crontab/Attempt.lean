/-!
# Attempts

An attempt at changing a state succeeds or is refused.  It leaves a state behind either way: what it
had done before it was refused stays done.

* `Attempt.result`, `Attempt.after` : what an attempt gives, and the state that it leaves behind.
* `Attempt.AllOrNothing` : a refused attempt has done nothing.
* `Attempt.afterAll` : the state after attempts one after another, refused ones among them.
-/

set_option autoImplicit false

namespace Crontab

/-- An attempt at changing a state of type `σ`, which is refused for a reason of type `ε` or gives
an answer of type `α`. -/
abbrev Attempt (ε σ α : Type) := EStateM ε σ α

namespace Attempt

variable {ε σ α κ : Type}

/-- The answer of an attempt, or why it is refused. -/
def result (a : Attempt ε σ α) (s : σ) : Except ε α :=
  match a.run s with
  | .ok x _ => .ok x
  | .error e _ => .error e

/-- The state that an attempt leaves behind. -/
def after (a : Attempt ε σ α) (s : σ) : σ :=
  match a.run s with
  | .ok _ t => t
  | .error _ t => t

theorem result_of_ok {a : Attempt ε σ α} {s t : σ} {x : α} (h : a.run s = .ok x t) :
    a.result s = .ok x := by
  rw [result, h]

theorem after_of_ok {a : Attempt ε σ α} {s t : σ} {x : α} (h : a.run s = .ok x t) :
    a.after s = t := by
  rw [after, h]

theorem result_of_error {a : Attempt ε σ α} {s t : σ} {e : ε} (h : a.run s = .error e t) :
    a.result s = .error e := by
  rw [result, h]

theorem after_of_error {a : Attempt ε σ α} {s t : σ} {e : ε} (h : a.run s = .error e t) :
    a.after s = t := by
  rw [after, h]

/-! ## Attempts put together -/

section

variable {β : Type} (s : σ)

@[simp] theorem result_pure (x : α) : (pure x : Attempt ε σ α).result s = .ok x := rfl

@[simp] theorem after_pure (x : α) : (pure x : Attempt ε σ α).after s = s := rfl

@[simp] theorem result_throw (e : ε) : (throw e : Attempt ε σ α).result s = .error e := rfl

@[simp] theorem after_throw (e : ε) : (throw e : Attempt ε σ α).after s = s := rfl

@[simp] theorem result_get : (get : Attempt ε σ σ).result s = .ok s := rfl

@[simp] theorem after_get : (get : Attempt ε σ σ).after s = s := rfl

@[simp] theorem result_set (t : σ) : (set t : Attempt ε σ PUnit).result s = .ok () := rfl

@[simp] theorem after_set (t : σ) : (set t : Attempt ε σ PUnit).after s = t := rfl

@[simp] theorem result_modify (f : σ → σ) : (modify f : Attempt ε σ Unit).result s = .ok () := rfl

@[simp] theorem after_modify (f : σ → σ) : (modify f : Attempt ε σ Unit).after s = f s := rfl

@[simp] theorem result_bind (a : Attempt ε σ α) (f : α → Attempt ε σ β) :
    (a >>= f).result s = match a.result s with
      | .ok x => (f x).result (a.after s)
      | .error e => .error e := by
  simp only [result, after, EStateM.run_bind]
  cases a.run s <;> rfl

@[simp] theorem after_bind (a : Attempt ε σ α) (f : α → Attempt ε σ β) :
    (a >>= f).after s = match a.result s with
      | .ok x => (f x).after (a.after s)
      | .error _ => a.after s := by
  simp only [result, after, EStateM.run_bind]
  cases a.run s <;> rfl

@[simp] theorem result_map (f : α → β) (a : Attempt ε σ α) :
    (f <$> a).result s = (a.result s).map f := by
  rw [← bind_pure_comp, result_bind]
  cases a.result s <;> rfl

@[simp] theorem after_map (f : α → β) (a : Attempt ε σ α) : (f <$> a).after s = a.after s := by
  rw [← bind_pure_comp, after_bind]
  cases a.result s <;> rfl

end

/-- An attempt that is refused leaves the state as it was. -/
def AllOrNothing (a : Attempt ε σ α) : Prop :=
  ∀ ⦃s e⦄, a.result s = .error e → a.after s = s

theorem AllOrNothing.of_run {a : Attempt ε σ α} (h : ∀ s e t, a.run s = .error e t → t = s) :
    a.AllOrNothing := by
  intro s e he
  rw [result] at he
  cases hrun : a.run s with
  | ok x t => simp [hrun] at he
  | error e' t => rw [after_of_error hrun, h s e' t hrun]

/-- After a question, which changes nothing, all or nothing is done. -/
theorem AllOrNothing.bind_of_keeps {β : Type} {a : Attempt ε σ α} {f : α → Attempt ε σ β}
    (ha : ∀ s, a.after s = s) (hf : ∀ x, (f x).AllOrNothing) : (a >>= f).AllOrNothing := by
  intro s e he
  rw [result_bind] at he
  rw [after_bind]
  cases hx : a.result s with
  | ok x =>
    simp only [hx, ha] at he ⊢
    exact hf x he
  | error e => simp only [ha]

/-- All or nothing is done before what is never refused. -/
theorem AllOrNothing.bind_of_succeeds {β : Type} {a : Attempt ε σ α} {f : α → Attempt ε σ β}
    (ha : a.AllOrNothing) (hf : ∀ x s, ∃ y, (f x).result s = .ok y) : (a >>= f).AllOrNothing := by
  intro s e he
  rw [result_bind] at he
  rw [after_bind]
  cases hx : a.result s with
  | ok x =>
    obtain ⟨y, hy⟩ := hf x (a.after s)
    simp only [hx, hy] at he
    cases he
  | error e => exact ha hx

/-! ## Attempts one after another -/

/-- The state after attempts one after another. -/
def afterAll (attempt : κ → Attempt ε σ α) (l : List κ) (s : σ) : σ :=
  l.foldl (fun t k => (attempt k).after t) s

end Attempt

end Crontab
