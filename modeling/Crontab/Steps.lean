/-!
# Steps of several parties

What several parties do at the same time is taken apart into steps, which come in any order.  A step
that is not possible in the state that it meets does not happen.

* `runSteps` : the state after steps in order.
* `runSteps_append` : steps and then more steps.
* `runSteps_induction_of_mem`, `runSteps_induction` : what the steps preserve holds after them.
* `runSteps_replicate_unique` : one step, again and again, leads to one end.
-/

set_option autoImplicit false

namespace Crontab

variable {σ κ : Type}

/-- The state after steps in order, if each of them is possible where it comes. -/
def runSteps (step : σ → κ → Option σ) (s : σ) : List κ → Option σ
  | [] => some s
  | k :: steps => (step s k).bind fun t => runSteps step t steps

theorem runSteps_append (step : σ → κ → Option σ) (s : σ) (steps more : List κ) :
    runSteps step s (steps ++ more) =
      (runSteps step s steps).bind fun t => runSteps step t more := by
  induction steps generalizing s with
  | nil => rfl
  | cons k steps ih =>
    rw [List.cons_append, runSteps, runSteps, Option.bind_assoc]
    simp only [ih]

/-- What each of the steps taken preserves holds after all of them. -/
theorem runSteps_induction_of_mem {step : σ → κ → Option σ} {P : σ → Prop} (steps : List κ)
    (hstep : ∀ k ∈ steps, ∀ s t, P s → step s k = some t → P t) {s t : σ} (hs : P s)
    (h : runSteps step s steps = some t) : P t := by
  induction steps generalizing s with
  | nil =>
    cases h
    exact hs
  | cons k steps ih =>
    obtain ⟨u, hu, hrest⟩ := Option.bind_eq_some_iff.1 h
    exact ih (fun j hj => hstep j (List.mem_cons_of_mem k hj))
      (hstep k List.mem_cons_self s u hs hu) hrest

/-- What every step preserves holds after all of them. -/
theorem runSteps_induction {step : σ → κ → Option σ} {P : σ → Prop}
    (hstep : ∀ s k t, P s → step s k = some t → P t) (steps : List κ) {s t : σ} (hs : P s)
    (h : runSteps step s steps = some t) : P t :=
  runSteps_induction_of_mem steps (fun k _ s t => hstep s k t) hs h

/-- A step that is taken again and again until it is no more possible leads to one state. -/
theorem runSteps_replicate_unique {step : σ → κ → Option σ} {s t u : σ} {n m : Nat} {k : κ}
    (ht : runSteps step s (List.replicate n k) = some t) (hstop : step t k = none)
    (hu : runSteps step s (List.replicate m k) = some u) (hstop' : step u k = none) : t = u := by
  induction n generalizing s m with
  | zero =>
    cases ht
    cases m with
    | zero => exact Option.some.inj hu
    | succ m =>
      rw [List.replicate_succ, runSteps, hstop] at hu
      cases hu
  | succ n ih =>
    obtain ⟨v, hv, ht⟩ := Option.bind_eq_some_iff.1 ht
    cases m with
    | zero =>
      cases hu
      cases hstop'.symm.trans hv
    | succ m =>
      obtain ⟨w, hw, hu⟩ := Option.bind_eq_some_iff.1 hu
      obtain rfl := Option.some.inj (hv.symm.trans hw)
      exact ih ht hu

end Crontab
