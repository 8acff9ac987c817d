/-!
# Sets of small numbers

The values that one field of a pattern accepts: a set of numbers below 64, kept as the bits of
one word.

* `mem_insert`, `mem_ofList` : membership after insertion, and in the set of a list.
* `ext` : a set is determined by its members.
* `mem_toList` : the ascending list of the members.
-/

set_option autoImplicit false

namespace Crontab

/-- A set of numbers below 64; number `v` is a member when bit `v` is set. -/
structure ValueSet where
  bits : BitVec 64
deriving DecidableEq, Repr

namespace ValueSet

/-- The set without members. -/
def empty : ValueSet := ⟨0#64⟩

/-- Whether `v` is a member; no number from 64 on is. -/
def contains (s : ValueSet) (v : Nat) : Bool := s.bits.getLsbD v

instance : Membership Nat ValueSet where
  mem s v := s.contains v = true

instance (v : Nat) (s : ValueSet) : Decidable (v ∈ s) :=
  inferInstanceAs (Decidable (s.contains v = true))

/-- The set with `v` added; a number from 64 on changes nothing. -/
def insert (s : ValueSet) (v : Nat) : ValueSet := ⟨s.bits ||| BitVec.twoPow 64 v⟩

/-- The set of the numbers of a list. -/
def ofList (l : List Nat) : ValueSet := l.foldl insert empty

/-- The set without `v`. -/
def erase (s : ValueSet) (v : Nat) : ValueSet := ⟨s.bits &&& ~~~ BitVec.twoPow 64 v⟩

/-- The members in ascending order. -/
def toList (s : ValueSet) : List Nat := (List.range 64).filter s.contains

theorem mem_iff {s : ValueSet} {v : Nat} : v ∈ s ↔ s.contains v = true := Iff.rfl

theorem lt_of_mem {s : ValueSet} {v : Nat} (h : v ∈ s) : v < 64 := by
  apply Classical.byContradiction
  intro hv
  rw [mem_iff, contains, BitVec.getLsbD_of_ge _ _ (by omega)] at h
  cases h

theorem not_mem_empty (v : Nat) : v ∉ empty := by
  simp [mem_iff, contains, empty]

theorem mem_insert {s : ValueSet} {v w : Nat} (hw : w < 64) : v ∈ s.insert w ↔ v = w ∨ v ∈ s := by
  simp only [mem_iff, contains, insert, BitVec.getLsbD_or, BitVec.getLsbD_twoPow, Bool.or_eq_true,
    Bool.and_eq_true, decide_eq_true_eq]
  constructor
  · rintro (h | ⟨-, h⟩)
    · exact Or.inr h
    · exact Or.inl h.symm
  · rintro (rfl | h)
    · exact Or.inr ⟨hw, rfl⟩
    · exact Or.inl h

theorem mem_foldl_insert {l : List Nat} (hl : ∀ w ∈ l, w < 64) (s : ValueSet) (v : Nat) :
    v ∈ l.foldl insert s ↔ v ∈ l ∨ v ∈ s := by
  induction l generalizing s with
  | nil => simp
  | cons w r ih =>
    rw [List.foldl_cons, ih (fun x hx => hl x (List.mem_cons_of_mem _ hx)),
      mem_insert (hl w List.mem_cons_self), List.mem_cons]
    constructor
    · rintro (h | h | h)
      · exact Or.inl (Or.inr h)
      · exact Or.inl (Or.inl h)
      · exact Or.inr h
    · rintro ((h | h) | h)
      · exact Or.inr (Or.inl h)
      · exact Or.inl h
      · exact Or.inr (Or.inr h)

/-- The members of the set of a list are the numbers of the list. -/
theorem mem_ofList {l : List Nat} (hl : ∀ w ∈ l, w < 64) (v : Nat) : v ∈ ofList l ↔ v ∈ l := by
  rw [ofList, mem_foldl_insert hl]
  simp [not_mem_empty]

theorem mem_erase {s : ValueSet} {v w : Nat} : v ∈ s.erase w ↔ v ∈ s ∧ v ≠ w := by
  simp only [mem_iff, contains, erase, BitVec.getLsbD_and, BitVec.getLsbD_not,
    BitVec.getLsbD_twoPow, Bool.and_eq_true, decide_eq_true_eq, Bool.not_eq_true',
    Bool.and_eq_false_iff, decide_eq_false_iff_not]
  constructor
  · rintro ⟨h, hv, h'⟩
    refine ⟨h, fun e => ?_⟩
    subst e
    rcases h' with h' | h'
    · exact h' hv
    · exact h' rfl
  · rintro ⟨h, h'⟩
    exact ⟨h, lt_of_mem h, Or.inr fun e => h' e.symm⟩

/-- A set is determined by its members. -/
theorem ext {s t : ValueSet} (h : ∀ v, v ∈ s ↔ v ∈ t) : s = t := by
  have hb : s.bits = t.bits := by
    apply BitVec.eq_of_getLsbD_eq
    intro i _
    have := h i
    simp only [mem_iff, contains] at this
    exact Bool.eq_iff_iff.mpr this
  cases s; cases t; cases hb; rfl

theorem mem_toList {s : ValueSet} {v : Nat} : v ∈ s.toList ↔ v ∈ s := by
  simp only [toList, List.mem_filter, List.mem_range, ← mem_iff]
  exact ⟨fun h => h.2, fun h => ⟨lt_of_mem h, h⟩⟩

/-- The members are listed in strictly ascending order. -/
theorem toList_ascending (s : ValueSet) : s.toList.Pairwise (· < ·) :=
  List.Pairwise.filter _ List.pairwise_lt_range

end ValueSet

end Crontab
