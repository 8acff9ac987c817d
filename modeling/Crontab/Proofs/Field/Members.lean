import Crontab.Field.Grammar
import Crontab.Pattern.Writing
import Mathlib.Data.List.Basic

/-!
# The numbers of an item

The set that is computed for items holds exactly the numbers that they stand for.  An item that can
be read stands for some number, and only for numbers that a moment can show or that mean a last day.

* `Span.Legal`, `Item.Legal` — spans and items that keep to the range of their field.
* `mem_progression_iff`, `Item.mem_members_iff`, `mem_itemSet_iff` — the numbers of a progression, of
  an item and of a list of items.
* `holds_of_mem_itemSet`, `exists_mem_itemSet` — what the set of legal items holds, and that it holds
  something.
-/

set_option autoImplicit false

namespace Crontab

variable {f : Field} {v : Nat}

/-- Whether the values of a span are legal ones in ascending order. -/
def Span.Legal (f : Field) : Span → Prop
  | .every => True
  | .single v => f.min ≤ v ∧ v ≤ f.max
  | .range lo hi => f.min ≤ lo ∧ lo ≤ hi ∧ hi ≤ f.max

/-- Whether an item has a place in a field: a legal span and a step forward, or the last day among
days of the month. -/
def Item.Legal (f : Field) : Item → Prop
  | .lastDay => f = .dayOfMonth
  | .values span step => span.Legal f ∧ ∀ n ∈ step, 0 < n

/-! ## Progressions -/

theorem Span.bounds_of_legal {span : Span} (h : span.Legal f) (step : Option Nat) :
    f.min ≤ (span.bounds f step).1 ∧ (span.bounds f step).1 ≤ (span.bounds f step).2 ∧
      (span.bounds f step).2 ≤ f.max := by
  cases span with
  | every => exact ⟨Nat.le_refl _, f.min_le_top, f.top_le_max⟩
  | range lo hi => exact h
  | single v =>
    cases step with
    | none => exact ⟨h.1, Nat.le_refl _, h.2⟩
    | some n => exact ⟨h.1, Nat.le_max_right _ _, Nat.max_le.2 ⟨f.top_le_max, h.2⟩⟩

theorem mem_progression_iff {lo hi step x : Nat} (hle : lo ≤ hi) (hstep : 0 < step) :
    x ∈ progression lo hi step ↔ lo ≤ x ∧ x ≤ hi ∧ step ∣ x - lo := by
  rw [progression, List.mem_range']
  constructor
  · rintro ⟨i, hlt, rfl⟩
    have hmul : i * step ≤ hi - lo := (Nat.le_div_iff_mul_le hstep).1 (Nat.le_of_lt_succ hlt)
    rw [Nat.mul_comm] at hmul
    exact ⟨by omega, by omega, i, by omega⟩
  · rintro ⟨hlo, hhi, i, heq⟩
    refine ⟨i, Nat.lt_succ_of_le ((Nat.le_div_iff_mul_le hstep).2 ?_), by omega⟩
    rw [Nat.mul_comm]
    omega

/-! ## Numbers of a field -/

namespace Field

theorem lt_of_holds (h : f.Holds v) : v < 64 := by
  rcases h with ⟨-, h⟩ | ⟨-, rfl⟩
  · have := f.top_le_max
    have := f.max_lt
    omega
  · decide

theorem holds_normalize (hmin : f.min ≤ v) (hmax : v ≤ f.max) : f.Holds (f.normalize v) := by
  refine .inl ⟨?_, normalize_le_top hmax⟩
  unfold normalize
  split
  · rename_i h
    rw [h.1]
    decide
  · exact hmin

end Field

/-! ## Items -/

namespace Item

variable {item : Item}

theorem step_pos {step : Option Nat} (h : ∀ n ∈ step, 0 < n) : 0 < step.getD 1 := by
  cases step with
  | none => exact Nat.one_pos
  | some n => exact h n rfl

/-- The values of an item are the numbers that it stands for. -/
theorem mem_members_iff (h : item.Legal f) : v ∈ item.members f ↔ item.Covers f v := by
  cases item with
  | lastDay => exact List.mem_singleton
  | values span step =>
    have hbounds := Span.bounds_of_legal h.1 step
    have hvalues : v ∈ (Item.values span step).members f ↔
        f.OnSteps (span.bounds f step).1 (span.bounds f step).2 (step.getD 1) v := by
      rw [members, List.mem_map]
      simp only [mem_progression_iff hbounds.2.1 (step_pos h.2), and_assoc, eq_comm]
      rfl
    rw [hvalues]
    -- What a span reaches depends on the step for a single value only.
    cases span with
    | every | range => rfl
    | single => cases step <;> rfl

/-- A legal item stands for numbers that a set of its field may hold. -/
theorem holds_of_mem_members (h : item.Legal f) (hv : v ∈ item.members f) : f.Holds v := by
  cases item with
  | lastDay => exact .inr ⟨h, List.mem_singleton.1 hv⟩
  | values span step =>
    obtain ⟨hlo, hle, hhi⟩ := Span.bounds_of_legal h.1 step
    obtain ⟨x, hx, rfl⟩ := List.mem_map.1 hv
    obtain ⟨hlox, hxhi, -⟩ := (mem_progression_iff hle (step_pos h.2)).1 hx
    exact Field.holds_normalize (Nat.le_trans hlo hlox) (Nat.le_trans hxhi hhi)

/-- Every legal item stands for some number, its first one. -/
theorem members_ne_nil (item : Item) (f : Field) : item.members f ≠ [] := by
  cases item with
  | lastDay => exact List.cons_ne_nil _ _
  | values span step => simp [members, progression]

end Item

section

variable {items : List Item}

/-- The set of legal items is the union of their values. -/
theorem mem_itemSet (h : ∀ item ∈ items, item.Legal f) :
    v ∈ itemSet f items ↔ ∃ item ∈ items, v ∈ item.members f := by
  have hlt : ∀ w ∈ items.flatMap (Item.members f), w < 64 := by
    intro w hw
    obtain ⟨item, hitem, hw⟩ := List.mem_flatMap.1 hw
    exact Field.lt_of_holds (Item.holds_of_mem_members (h item hitem) hw)
  rw [itemSet, ValueSet.mem_ofList hlt, List.mem_flatMap]

theorem mem_itemSet_iff (h : ∀ item ∈ items, item.Legal f) :
    v ∈ itemSet f items ↔ ∃ item ∈ items, item.Covers f v := by
  rw [mem_itemSet h]
  constructor
  · rintro ⟨item, hitem, hv⟩
    exact ⟨item, hitem, (Item.mem_members_iff (h item hitem)).1 hv⟩
  · rintro ⟨item, hitem, hv⟩
    exact ⟨item, hitem, (Item.mem_members_iff (h item hitem)).2 hv⟩

theorem holds_of_mem_itemSet (h : ∀ item ∈ items, item.Legal f) (hv : v ∈ itemSet f items) :
    f.Holds v := by
  obtain ⟨item, hitem, hv⟩ := (mem_itemSet h).1 hv
  exact Item.holds_of_mem_members (h item hitem) hv

theorem exists_mem_itemSet (h : ∀ item ∈ items, item.Legal f) (hne : items ≠ []) :
    ∃ v, v ∈ itemSet f items := by
  obtain ⟨item, hitem⟩ := List.exists_mem_of_ne_nil items hne
  obtain ⟨v, hv⟩ := List.exists_mem_of_ne_nil _ (item.members_ne_nil f)
  exact ⟨v, (mem_itemSet h).2 ⟨item, hitem, hv⟩⟩

end

end Crontab
