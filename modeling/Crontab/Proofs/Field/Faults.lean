import Crontab.Field.Fault
import Crontab.Proofs.Field.Grammar

/-!
# Refusals name a fault

The readers of a field refuse exactly the texts that have a fault, in the words of that fault.

* `RefusedWith` — that a reading is refused in certain words.
* `firstFault_cons` — the first of several texts has the fault, or it is accepted and another one
  has.
* `refusedWith_readValue_iff`, `refusedWith_readStep_iff`, `refusedWith_readSpan_iff`,
  `Item.refusedWith_read_iff` — the refusals of values, steps, spans and items.
* `refusedWith_readItems_iff`, `Matcher.refusedWith_read_iff` — the refusals of lists of items and
  of tokens.
-/

set_option autoImplicit false

namespace Crontab

open Text

/-! ## Refusals -/

section

variable {ε α β : Type} {wording : ε → String} {x : Except ε α} {reason : String}

/-- Whether a reading is refused in certain words. -/
def RefusedWith (wording : ε → String) (x : Except ε α) (reason : String) : Prop :=
  ∃ e, x = .error e ∧ wording e = reason

@[simp] theorem not_refusedWith_ok {a : α} :
    ¬ RefusedWith wording (.ok a : Except ε α) reason := by
  rintro ⟨e, h, -⟩
  cases h

@[simp] theorem not_refusedWith_pure {a : α} :
    ¬ RefusedWith wording (pure a : Except ε α) reason := not_refusedWith_ok

@[simp] theorem refusedWith_error_iff {e : ε} :
    RefusedWith wording (.error e : Except ε α) reason ↔ wording e = reason := by
  simp [RefusedWith]

theorem refusedWith_of_error {e : ε} (h : x = .error e) : RefusedWith wording x (wording e) :=
  ⟨e, h, rfl⟩

/-- What is read in two parts is refused for the first one, or for the second one if the first one
can be read. -/
theorem refusedWith_bind_iff {k : α → Except ε β} :
    RefusedWith wording (x >>= k) reason ↔
      RefusedWith wording x reason ∨ ∃ a, x = .ok a ∧ RefusedWith wording (k a) reason := by
  cases x <;> simp [bind, Except.bind]

theorem refusedWith_bind_pure_iff {k : α → β} :
    RefusedWith wording (x >>= fun a => pure (k a)) reason ↔ RefusedWith wording x reason := by
  cases x <;> simp [bind, Except.bind, pure, Except.pure]

end

section

variable {α : Type} {Accepted : α → Prop} {Fault : α → String → Prop} {x : α} {l : List α}
  {reason : String}

theorem not_firstFault_nil : ¬ FirstFault Accepted Fault ([] : List α) reason := by
  rintro ⟨before, x, after, h, -⟩
  exact List.append_ne_nil_of_right_ne_nil before (List.cons_ne_nil _ _) h.symm

theorem firstFault_cons :
    FirstFault Accepted Fault (x :: l) reason ↔
      Fault x reason ∨ (Accepted x ∧ FirstFault Accepted Fault l reason) := by
  constructor
  · rintro ⟨before, y, after, heq, hbefore, hfault⟩
    cases before with
    | nil =>
      cases heq
      exact .inl hfault
    | cons z before =>
      cases heq
      obtain ⟨hx, hbefore⟩ := List.forall_mem_cons.1 hbefore
      exact .inr ⟨hx, before, y, after, rfl, hbefore, hfault⟩
  · rintro (hfault | ⟨hx, before, y, after, rfl, hbefore, hfault⟩)
    · exact ⟨[], x, l, rfl, List.forall_mem_nil _, hfault⟩
    · exact ⟨x :: before, y, after, rfl, List.forall_mem_cons.2 ⟨hx, hbefore⟩, hfault⟩

/-- What comes later makes no difference. -/
theorem firstFault_append (h : FirstFault Accepted Fault l reason) (more : List α) :
    FirstFault Accepted Fault (l ++ more) reason := by
  obtain ⟨before, x, after, rfl, hbefore, hfault⟩ := h
  exact ⟨before, x, after ++ more, by simp, hbefore, hfault⟩

end

variable {f : Field} {s a b : List Char} {v : Nat} {reason : String}

/-! ## Values and steps -/

theorem readValue_eq_ok_iff_of_not_blank (hs : ∀ c ∈ s, isBlank c = false) :
    readValue f s = .ok v ↔ f.Names s v := by
  rw [readValue_eq_ok_iff, trim_of_not_blank hs]

theorem refusedWith_readValue_iff (hs : ∀ c ∈ s, isBlank c = false) :
    RefusedWith (FieldDefect.reason f) (readValue f s) reason ↔ f.NameFault s reason := by
  unfold readValue
  rw [trim_of_not_blank hs]
  cases hraw : rawValue? f s with
  | none =>
    have hnone : ∀ v, ¬ f.Spells s v := by
      intro v hv
      rw [rawValue?_eq_some_iff.2 hv] at hraw
      cases hraw
    rw [refusedWith_error_iff]
    constructor
    · rintro rfl
      exact .unparseable hnone
    · rintro (_ | ⟨hv, -⟩)
      · rfl
      · exact absurd hv (hnone _)
  | some v =>
    have hv : f.Spells s v := rawValue?_eq_some_iff.1 hraw
    -- A text spells one value at most.
    have hsame : ∀ {w}, f.Spells s w → v = w := by
      intro w hw
      exact Option.some.inj (hraw.symm.trans (rawValue?_eq_some_iff.2 hw))
    dsimp only
    split
    · rename_i hlegal
      constructor
      · intro h
        exact absurd h not_refusedWith_ok
      · rintro (hnone | ⟨hw, hillegal⟩)
        · exact absurd hv (hnone v)
        · obtain rfl := hsame hw
          omega
    · rename_i hillegal
      rw [refusedWith_error_iff]
      constructor
      · rintro rfl
        exact .outOfRange hv (by omega)
      · rintro (hnone | ⟨hw, -⟩)
        · exact absurd hv (hnone v)
        · obtain rfl := hsame hw
          rfl

theorem readStep_eq_ok_iff_of_not_blank (hs : ∀ c ∈ s, isBlank c = false) {n : Nat} :
    readStep s = .ok n ↔ IsNumeral s n ∧ 0 < n ∧ n ≤ maxUnsigned64 := by
  rw [readStep_eq_ok_iff, trim_of_not_blank hs]

theorem refusedWith_readStep_iff (hs : ∀ c ∈ s, isBlank c = false) :
    RefusedWith (FieldDefect.reason f) (readStep s) reason ↔ StepFault s reason := by
  unfold readStep
  rw [trim_of_not_blank hs]
  split
  · rename_i hread
    have hnone : ∀ n ≤ maxUnsigned64, ¬ IsNumeral s n := by
      intro n hmax hn
      rw [natural?_eq_some_iff.2 ⟨hmax, hn⟩] at hread
      cases hread
    rw [refusedWith_error_iff]
    constructor
    · rintro rfl
      exact .invalid hnone
    · rintro (_ | hzero)
      · rfl
      · exact absurd hzero (hnone 0 (Nat.zero_le _))
  · rename_i hread
    obtain ⟨hmax, hzero⟩ := natural?_eq_some_iff.1 hread
    rw [refusedWith_error_iff]
    constructor
    · rintro rfl
      exact .zero hzero
    · rintro (hnone | _)
      · exact absurd hzero (hnone 0 hmax)
      · rfl
  · rename_i n hpos hread
    obtain ⟨hmax, hn⟩ := natural?_eq_some_iff.1 hread
    constructor
    · intro h
      exact absurd h not_refusedWith_ok
    · rintro (hnone | hzero)
      · exact absurd hn (hnone n hmax)
      · rw [natural?_eq_some_iff.2 ⟨Nat.zero_le _, hzero⟩] at hread
        exact absurd (Option.some.inj hread).symm hpos

/-! ## Spans -/

/-- A text without blanks is refused as a span exactly for its fault. -/
theorem refusedWith_readSpan_iff (hs : ∀ c ∈ s, isBlank c = false) :
    RefusedWith (FieldDefect.reason f) (readSpan f s) reason ↔ Span.Fault f s reason := by
  constructor
  · intro h
    by_cases hwild : isWildcard s = true
    · rw [readSpan, if_pos hwild] at h
      exact absurd h not_refusedWith_ok
    rw [isWildcard_iff, not_or] at hwild
    cases hcut : cut '-' s with
    | none =>
      have hhyphen : '-' ∉ s := cut_eq_none_iff.1 hcut
      rw [readSpan_of_no_hyphen hwild hhyphen, refusedWith_bind_pure_iff] at h
      exact .single hwild hhyphen ((refusedWith_readValue_iff hs).1 h)
    | some ab =>
      obtain ⟨rfl, hhyphen⟩ := eq_of_cut hcut
      obtain ⟨ha, hb⟩ := List.forall_mem_append.1 hs
      replace hb := (List.forall_mem_cons.1 hb).2
      rw [readSpan_append_hyphen hhyphen, refusedWith_bind_iff] at h
      rcases h with h | ⟨lo, hlo, h⟩
      · exact .left hhyphen ((refusedWith_readValue_iff ha).1 h)
      · rw [readValue_eq_ok_iff_of_not_blank ha] at hlo
        rw [refusedWith_bind_iff] at h
        rcases h with h | ⟨hi, hhi, h⟩
        · exact .right hlo ((refusedWith_readValue_iff hb).1 h)
        · rw [readValue_eq_ok_iff_of_not_blank hb] at hhi
          split at h
          · rename_i hlt
            rw [refusedWith_error_iff] at h
            exact h ▸ .descending hlo hhi hlt
          · exact absurd h not_refusedWith_ok
  · intro h
    cases h with
    | single hwild hhyphen h =>
      rw [readSpan_of_no_hyphen hwild hhyphen, refusedWith_bind_pure_iff]
      exact (refusedWith_readValue_iff hs).2 h
    | left hhyphen h =>
      obtain ⟨ha, -⟩ := List.forall_mem_append.1 hs
      rw [readSpan_append_hyphen hhyphen, refusedWith_bind_iff]
      exact .inl ((refusedWith_readValue_iff ha).2 h)
    | right hlo h =>
      obtain ⟨ha, hb⟩ := List.forall_mem_append.1 hs
      replace hb := (List.forall_mem_cons.1 hb).2
      rw [readSpan_append_hyphen (not_mem_of_names hlo rfl (by decide)), refusedWith_bind_iff]
      refine .inr ⟨_, (readValue_eq_ok_iff_of_not_blank ha).2 hlo, refusedWith_bind_iff.2 (.inl ?_)⟩
      exact (refusedWith_readValue_iff hb).2 h
    | descending hlo hhi h =>
      obtain ⟨ha, hb⟩ := List.forall_mem_append.1 hs
      replace hb := (List.forall_mem_cons.1 hb).2
      rw [readSpan_append_hyphen (not_mem_of_names hlo rfl (by decide)), refusedWith_bind_iff]
      refine .inr ⟨_, (readValue_eq_ok_iff_of_not_blank ha).2 hlo, refusedWith_bind_iff.2 (.inr ?_)⟩
      refine ⟨_, (readValue_eq_ok_iff_of_not_blank hb).2 hhi, ?_⟩
      rw [if_pos h]
      exact refusedWith_of_error rfl

/-! ## Items -/

namespace Item

/-- A text without blanks is refused as an item exactly for its fault. -/
theorem refusedWith_read_iff (hs : ∀ c ∈ s, isBlank c = false) :
    RefusedWith (FieldDefect.reason f) (read f s) reason ↔ Item.Fault f s reason := by
  constructor
  · intro h
    by_cases hne : s = []
    · rw [read, if_pos hne, refusedWith_error_iff] at h
      subst hne
      exact h ▸ .empty
    by_cases hlast : f = .dayOfMonth ∧ sameLetters s ['l'] = true
    · rw [read, if_neg hne, if_pos hlast] at h
      exact absurd h not_refusedWith_ok
    rw [sameLetters_l_iff] at hlast
    cases hcut : cut '/' s with
    | none =>
      have hnot : f = .dayOfMonth → s ≠ ['l'] ∧ s ≠ ['L'] := by tauto
      have hslash : '/' ∉ s := cut_eq_none_iff.1 hcut
      rw [read_of_no_slash hne hnot hslash, refusedWith_bind_pure_iff] at h
      exact .whole hne hnot hslash ((refusedWith_readSpan_iff hs).1 h)
    | some ab =>
      obtain ⟨rfl, hslash⟩ := eq_of_cut hcut
      obtain ⟨ha, hb⟩ := List.forall_mem_append.1 hs
      replace hb := (List.forall_mem_cons.1 hb).2
      rw [read_append_slash hslash, refusedWith_bind_iff] at h
      rcases h with h | ⟨n, hn, h⟩
      · exact .step hslash ((refusedWith_readStep_iff hb).1 h)
      · obtain ⟨hnumeral, hpos, hmax⟩ := (readStep_eq_ok_iff_of_not_blank hb).1 hn
        rw [refusedWith_bind_pure_iff] at h
        exact .stepped hslash hnumeral hpos hmax ((refusedWith_readSpan_iff ha).1 h)
  · intro h
    cases h with
    | empty => exact refusedWith_of_error rfl
    | whole hne hlast hslash h =>
      rw [read_of_no_slash hne hlast hslash, refusedWith_bind_pure_iff]
      exact (refusedWith_readSpan_iff hs).2 h
    | step hslash h =>
      obtain ⟨-, hb⟩ := List.forall_mem_append.1 hs
      rw [read_append_slash hslash, refusedWith_bind_iff]
      exact .inl ((refusedWith_readStep_iff (List.forall_mem_cons.1 hb).2).2 h)
    | stepped hslash hn hpos hmax h =>
      obtain ⟨ha, hb⟩ := List.forall_mem_append.1 hs
      replace hb := (List.forall_mem_cons.1 hb).2
      rw [read_append_slash hslash, refusedWith_bind_iff]
      refine .inr ⟨_, (readStep_eq_ok_iff_of_not_blank hb).2 ⟨hn, hpos, hmax⟩, ?_⟩
      exact refusedWith_bind_pure_iff.2 ((refusedWith_readSpan_iff ha).2 h)

end Item

/-! ## Fields -/

/-- Texts without blanks are refused for the fault of the first one that writes no item. -/
theorem refusedWith_readItems_iff {pieces : List (List Char)}
    (h : ∀ s ∈ pieces, ∀ c ∈ s, isBlank c = false) :
    RefusedWith (FieldDefect.reason f) (readItems f pieces) reason ↔
      FirstFault (fun s => ∃ item, Item.WrittenAs f item s) (Item.Fault f) pieces reason := by
  induction pieces with
  | nil => exact iff_of_false not_refusedWith_ok not_firstFault_nil
  | cons s pieces ih =>
    obtain ⟨hs, hpieces⟩ := List.forall_mem_cons.1 h
    have hread : readItems f (s :: pieces) = (do
        let item ← Item.read f s
        let items ← readItems f pieces
        return item :: items) := by
      rw [readItems, trim_of_not_blank hs]
      cases Item.read f s with
      | error e => rfl
      | ok item => cases readItems f pieces <;> rfl
    rw [hread, refusedWith_bind_iff, firstFault_cons, Item.refusedWith_read_iff hs, ← ih hpieces]
    simp only [refusedWith_bind_pure_iff, Item.read_eq_ok_iff hs, exists_and_right]

/-- A token is refused in a field for its fault there. -/
theorem Matcher.refusedWith_read_iff (hs : ∀ c ∈ s, isBlank c = false) :
    RefusedWith PatternDefect.reason (Matcher.read f s) reason ↔ f.TokenFault s reason := by
  have hfault : f.TokenFault s reason ↔
      ∃ r, RefusedWith (FieldDefect.reason f) (readItems f (piecesAt ',' s)) r ∧
        reason = f.name ++ " field: " ++ r := by
    simp only [refusedWith_readItems_iff (not_blank_of_mem_pieces hs)]
    rfl
  rw [hfault]
  unfold Matcher.read readField
  by_cases hwild : isWildcard s = true
  · -- A wildcard is its only piece, and no fault is found in it either.
    have hitems : readItems f (piecesAt ',' s) = .ok [.values .every none] := by
      rw [readItems_eq_ok_iff (not_blank_of_mem_pieces hs)]
      rcases isWildcard_iff.1 hwild with rfl | rfl
      · exact .cons (.whole .star) .nil
      · exact .cons (.whole .mark) .nil
    rw [if_pos hwild, hitems]
    simp only [not_refusedWith_ok, false_and, exists_false]
  · rw [if_neg hwild]
    cases readItems f (piecesAt ',' s) with
    | error e =>
      simp only [refusedWith_error_iff]
      constructor
      · rintro rfl
        exact ⟨_, rfl, rfl⟩
      · rintro ⟨_, rfl, rfl⟩
        rfl
    | ok items => simp only [not_refusedWith_ok, false_and, exists_false]

end Crontab
