import Mathlib.Data.List.Perm.Basic

/-!
# Places of lists

The parties of a run stand in lists, where a step finds one of them by its place and takes it out or
changes it.

* `perm_cons_eraseIdx`, `length_eq_length_eraseIdx`, `mem_eraseIdx_of_ne` — the others when one is
  taken out.
* `perm_set_of_getElem?` — the others when one is changed.
* `map_set_of_getElem?` — a change that does not touch what is looked at.
-/

set_option autoImplicit false

namespace Crontab

variable {α β : Type} {l : List α} {k : Nat} {x y : α}

/-- A list is what stands at a place and the rest. -/
theorem perm_cons_eraseIdx (h : l[k]? = some x) : l.Perm (x :: l.eraseIdx k) := by
  obtain ⟨hk, rfl⟩ := List.getElem?_eq_some_iff.1 h
  exact (List.getElem_cons_eraseIdx_perm hk).symm

theorem length_eq_length_eraseIdx (h : l[k]? = some x) :
    l.length = (l.eraseIdx k).length + 1 := (perm_cons_eraseIdx h).length_eq

theorem mem_eraseIdx_of_ne (h : l[k]? = some x) (hy : y ∈ l) (hne : y ≠ x) :
    y ∈ l.eraseIdx k :=
  (List.mem_cons.1 ((perm_cons_eraseIdx h).mem_iff.1 hy)).resolve_left hne

/-- When a place is changed, the rest stays. -/
theorem perm_set_of_getElem? (h : l[k]? = some x) (y : α) : (l.set k y).Perm (y :: l.eraseIdx k) :=
  List.set_perm_cons_eraseIdx (List.getElem?_eq_some_iff.1 h).1 y

theorem map_set_of_getElem? {f : α → β} (h : l[k]? = some x) (hf : f y = f x) :
    (l.set k y).map f = l.map f := by
  refine List.ext_getElem? fun i => ?_
  rw [List.getElem?_map, List.getElem?_map, List.getElem?_set]
  split
  · rename_i hi
    rw [← hi, h]
    split <;> simp_all
  · rfl

end Crontab
