import Crontab.Text.Blank
import Mathlib.Data.List.TakeWhile

/-!
# Trimming

What is left of a text when the blanks at its ends are cut off.

* `trim_eq_nil_iff`, `trim_of_not_blank` — only a text of blanks is trimmed to nothing, and a text
  without blanks is left as it is.
* `Trimmed`, `trimmed_trim`, `trim_of_trimmed` — what is left, told without cutting anything off.
* `trim_trim`, `trim_between` — a text is trimmed once, and blanks around it do not matter.
* `trim_append_cons` — the two sides of a character that is no blank are trimmed at one end each.
-/

set_option autoImplicit false

namespace Crontab.Text

variable {s : List Char}


/-- Only a text of blanks is trimmed to nothing. -/
theorem trim_eq_nil_iff : trim s = [] ↔ ∀ c ∈ s, isBlank c = true := by
  rw [trim, trimRight, List.reverse_eq_nil_iff, List.dropWhile_eq_nil_iff]
  simp only [List.mem_reverse, trimLeft]
  constructor
  · intro h c hc
    -- What is dropped on the left is blank too.
    rw [← List.takeWhile_append_dropWhile (p := isBlank) (l := s)] at hc
    rcases List.mem_append.mp hc with hc | hc
    · exact List.mem_takeWhile_imp hc
    · exact h c hc
  · intro h c hc
    exact h c ((List.dropWhile_sublist _).mem hc)

/-- `Trimmed s t`: between blanks `s` holds `t`, which neither begins nor ends with a blank. -/
structure Trimmed (s t : List Char) : Prop where
  between : ∃ g h, s = g ++ t ++ h ∧ (∀ c ∈ g, isBlank c = true) ∧ ∀ c ∈ h, isBlank c = true
  head : ∀ c ∈ t.head?, isBlank c = false
  last : ∀ c ∈ t.getLast?, isBlank c = false

theorem dropWhile_isBlank_eq_self {t : List Char} (h : ∀ c ∈ t.head?, isBlank c = false) :
    t.dropWhile isBlank = t := by
  cases t with
  | nil => rfl
  | cons c t => rw [List.dropWhile_cons, h c rfl]; rfl

/-- There is only one such text, and trimming gives it. -/
theorem trim_of_trimmed {t : List Char} (h : Trimmed s t) : trim s = t := by
  obtain ⟨⟨g, e, rfl, hg, he⟩, hhead, hlast⟩ := h
  have hrev : ∀ c ∈ t.reverse.head?, isBlank c = false := by rwa [List.head?_reverse]
  have hend : ∀ c ∈ e.reverse, isBlank c = true := fun c hc => he c (List.mem_reverse.1 hc)
  rw [trim, trimLeft, List.append_assoc, List.dropWhile_append_of_pos hg]
  cases t with
  | nil => rw [List.nil_append, List.dropWhile_eq_nil_iff.2 he, trimRight_nil]
  | cons c t =>
    have hstop : ((c :: t) ++ e).dropWhile isBlank = (c :: t) ++ e :=
      dropWhile_isBlank_eq_self hhead
    rw [hstop, trimRight, List.reverse_append, List.dropWhile_append_of_pos hend,
      dropWhile_isBlank_eq_self hrev, List.reverse_reverse]

/-- Where blanks are cut off, no blank follows. -/
theorem not_blank_of_mem_head?_dropWhile (s : List Char) :
    ∀ c ∈ (s.dropWhile isBlank).head?, isBlank c = false := by
  intro c hc
  have hstop := List.head?_dropWhile_not isBlank s
  rwa [Option.mem_def.1 hc] at hstop

theorem trimRight_append (s : List Char) :
    trimRight s ++ (s.reverse.takeWhile isBlank).reverse = s := by
  rw [trimRight, ← List.reverse_append, List.takeWhile_append_dropWhile, List.reverse_reverse]

theorem trimmed_trim (s : List Char) : Trimmed s (trim s) := by
  have hleft : s.takeWhile isBlank ++ trimLeft s = s := List.takeWhile_append_dropWhile
  have hright := trimRight_append (trimLeft s)
  constructor
  case between =>
    refine ⟨s.takeWhile isBlank, ((trimLeft s).reverse.takeWhile isBlank).reverse, ?_, ?_, ?_⟩
    · rw [List.append_assoc, trim, hright, hleft]
    · exact fun c hc => List.mem_takeWhile_imp hc
    · exact fun c hc => List.mem_takeWhile_imp (List.mem_reverse.1 hc)
  case head =>
    intro c hc
    refine not_blank_of_mem_head?_dropWhile s c ?_
    rw [← trimLeft, ← hright, ← trim, List.head?_append, Option.mem_def.1 hc]
    rfl
  case last =>
    intro c hc
    refine not_blank_of_mem_head?_dropWhile (trimLeft s).reverse c ?_
    rwa [trim, trimRight, List.getLast?_reverse] at hc

/-- Nothing is left to trim. -/
theorem trim_trim (s : List Char) : trim (trim s) = trim s := by
  obtain ⟨-, hhead, hlast⟩ := trimmed_trim s
  exact trim_of_trimmed ⟨⟨[], [], by simp, by simp, by simp⟩, hhead, hlast⟩

/-- Blanks around a text do not matter. -/
theorem trim_between {g h : List Char} (hg : ∀ c ∈ g, isBlank c = true)
    (hh : ∀ c ∈ h, isBlank c = true) (s : List Char) : trim (g ++ s ++ h) = trim s := by
  obtain ⟨⟨a, b, hs, ha, hb⟩, hhead, hlast⟩ := trimmed_trim s
  have hshape : g ++ s ++ h = (g ++ a) ++ trim s ++ (b ++ h) := calc
    _ = g ++ (a ++ trim s ++ b) ++ h := by rw [← hs]
    _ = (g ++ a) ++ trim s ++ (b ++ h) := by simp only [List.append_assoc]
  exact trim_of_trimmed ⟨⟨g ++ a, b ++ h, hshape, List.forall_mem_append.2 ⟨hg, ha⟩,
    List.forall_mem_append.2 ⟨hb, hh⟩⟩, hhead, hlast⟩

theorem trim_trimLeft (s : List Char) : trim (trimLeft s) = trim s := by
  have h := trim_between (g := s.takeWhile isBlank) (h := []) (fun c => List.mem_takeWhile_imp)
    (by simp) (trimLeft s)
  rw [List.append_nil, trimLeft, List.takeWhile_append_dropWhile] at h
  exact h.symm

theorem trim_trimRight (s : List Char) : trim (trimRight s) = trim s := by
  have h := trim_between (g := []) (h := (s.reverse.takeWhile isBlank).reverse) (by simp)
    (fun c hc => List.mem_takeWhile_imp (List.mem_reverse.1 hc)) (trimRight s)
  rw [List.nil_append, trimRight_append] at h
  exact h.symm

theorem dropWhile_isBlank_append_cons {c : Char} (hc : isBlank c = false) (s t : List Char) :
    (s ++ c :: t).dropWhile isBlank = s.dropWhile isBlank ++ c :: t := by
  rw [List.dropWhile_append]
  split
  · rename_i h
    rw [List.isEmpty_iff.1 h, List.dropWhile_cons, hc]
    rfl
  · rfl

/-- A character that is no blank keeps the blanks next to it. -/
theorem trim_append_cons {c : Char} (hc : isBlank c = false) (s t : List Char) :
    trim (s ++ c :: t) = trimLeft s ++ c :: trimRight t := by
  rw [trim, trimLeft, dropWhile_isBlank_append_cons hc, trimRight, List.reverse_append,
    List.reverse_cons, List.append_assoc, List.singleton_append, dropWhile_isBlank_append_cons hc,
    List.reverse_append, List.reverse_cons, List.reverse_reverse, List.append_assoc]
  rfl

/-- Only blanks are cut off. -/
theorem mem_trim {c : Char} (hc : c ∈ s) (hblank : isBlank c = false) : c ∈ trim s := by
  obtain ⟨g, h, hs, hg, hh⟩ := (trimmed_trim s).between
  rw [hs, List.mem_append, List.mem_append] at hc
  rcases hc with (hc | hc) | hc
  · rw [hg c hc] at hblank
    cases hblank
  · exact hc
  · rw [hh c hc] at hblank
    cases hblank

theorem trim_subset (s : List Char) : trim s ⊆ s := by
  obtain ⟨g, h, hs, -, -⟩ := (trimmed_trim s).between
  intro c hc
  rw [hs]
  exact List.mem_append_left _ (List.mem_append_right _ hc)

theorem trim_of_not_blank (h : ∀ c ∈ s, isBlank c = false) : trim s = s := by
  refine trim_of_trimmed ⟨⟨[], [], by simp, by simp, by simp⟩, fun c hc => ?_, fun c hc => ?_⟩
  · exact h c (List.mem_of_mem_head? hc)
  · exact h c (List.mem_of_mem_getLast? hc)

end Crontab.Text
