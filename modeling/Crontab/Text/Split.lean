import Crontab.Text.Blank

/-!
# Cutting a text at separators

* `pieces p s` : the texts between the characters of `s` that satisfy `p`; there is always at
  least one piece, and no piece holds a separator.
* `words s` : the maximal runs of non-blank characters of `s`.
* `cut c s` : what stands before and after the first `c`, if there is one.
-/

set_option autoImplicit false

namespace Crontab.Text

/-- The texts between the characters that satisfy `p`, in order; one more than there are such
characters. -/
def pieces (p : Char → Bool) : List Char → List (List Char)
  | [] => [[]]
  | c :: r =>
    if p c then [] :: pieces p r
    else match pieces p r with
      | [] => [[c]]
      | w :: ws => (c :: w) :: ws

/-- The texts between the occurrences of one separator. -/
def piecesAt (sep : Char) (s : List Char) : List (List Char) := pieces (· == sep) s

/-- The maximal runs of non-blank characters. -/
def words (s : List Char) : List (List Char) := (pieces isBlank s).filter fun w => !w.isEmpty

/-- What stands before and after the first separator. -/
def cut (sep : Char) : List Char → Option (List Char × List Char)
  | [] => none
  | c :: r => if c = sep then some ([], r) else (cut sep r).map fun q => (c :: q.1, q.2)

theorem pieces_ne_nil (p : Char → Bool) (s : List Char) : pieces p s ≠ [] := by
  cases s with
  | nil => simp [pieces]
  | cons c r =>
    unfold pieces
    split
    · simp
    · split <;> simp

/-- There is one more piece than there are separators. -/
theorem length_pieces (p : Char → Bool) (s : List Char) :
    (pieces p s).length = s.countP p + 1 := by
  induction s with
  | nil => rfl
  | cons c r ih =>
    unfold pieces
    by_cases h : p c
    · simp [h, ih]
    · simp only [h, Bool.false_eq_true, if_false, List.countP_cons, Nat.add_zero]
      split
      · next e => exact absurd e (pieces_ne_nil p r)
      · next w ws e => rw [e] at ih; simpa using ih

/-- A text is cut exactly when it holds the separator. -/
theorem cut_eq_none_iff {sep : Char} {s : List Char} : cut sep s = none ↔ sep ∉ s := by
  induction s with
  | nil => simp [cut]
  | cons c r ih =>
    by_cases h : c = sep
    · simp [cut, h]
    · have h' : sep ≠ c := fun e => h e.symm
      simp [cut, h, h', ih]

/-- The two sides of a cut rebuild the text, and the left one does not hold the separator. -/
theorem eq_of_cut {sep : Char} {s a b : List Char} (h : cut sep s = some (a, b)) :
    s = a ++ sep :: b ∧ sep ∉ a := by
  induction s generalizing a with
  | nil => simp [cut] at h
  | cons c r ih =>
    by_cases hc : c = sep
    · simp only [cut, hc, if_true, Option.some.injEq, Prod.mk.injEq] at h
      obtain ⟨rfl, rfl⟩ := h
      simp [hc]
    · simp only [cut, hc, if_false, Option.map_eq_some_iff, Prod.mk.injEq] at h
      obtain ⟨⟨a', b'⟩, h', rfl, rfl⟩ := h
      obtain ⟨rfl, hn⟩ := ih h'
      exact ⟨rfl, List.not_mem_cons_of_ne_of_not_mem (fun e => hc e.symm) hn⟩

end Crontab.Text
