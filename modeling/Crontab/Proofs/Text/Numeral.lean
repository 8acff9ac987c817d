import Crontab.Field.Grammar
import Mathlib.Data.List.Induction
import Mathlib.Data.Nat.Digits.Defs

/-!
# Numbers in decimal

What is read as a number is what writes one.

* `exists_zeros_of_isDigit` — a run of digits is zeros in front of the decimal of its value.
* `digits?_eq_some_iff`, `natural?_eq_some_iff` — the texts that the readers of numbers accept.
-/

set_option autoImplicit false

namespace Crontab.Text

variable {bound n : Nat} {c : Char} {s : List Char}

/-! ## Digits -/

theorem isDigit_of_mem_toString (h : c ∈ (toString n).toList) : c.isDigit = true := by
  rw [Nat.toString_eq_ofList_toDigits, String.toList_ofList] at h
  exact Nat.isDigit_of_mem_toDigits (by decide) (by decide) h

theorem not_blank_of_isDigit (h : c.isDigit = true) : isBlank c = false := by
  obtain ⟨hlo, hhi⟩ : 48 ≤ c.toNat ∧ c.toNat ≤ 57 := Char.isDigit_iff_toNat.1 h
  simp only [isBlank, Bool.or_eq_false_iff, Bool.and_eq_false_iff, decide_eq_false_iff_not,
    beq_eq_false_iff_ne]
  omega

/-- Only capital letters are folded. -/
theorem toLower_of_isUpper_eq_false (h : c.isUpper = false) : c.toLower = c :=
  dif_neg (of_decide_eq_false h)

/-- A digit is no letter. -/
theorem isAlpha_of_isDigit (h : c.isDigit = true) : c.isAlpha = false := by
  have hhi : c.toNat ≤ 57 := (Char.isDigit_iff_toNat.1 h).2
  have hupper : c.isUpper = false := decide_eq_false fun hupper => by
    have hlo : 65 ≤ c.toNat := UInt32.le_iff_toNat_le.1 hupper.1
    omega
  have hlower : c.isLower = false := Bool.eq_false_iff.2 fun hlower => by
    have hlo : 97 ≤ c.toNat :=
      UInt32.le_iff_toNat_le.1 (of_decide_eq_true (Bool.and_eq_true_iff.1 hlower).1)
    omega
  exact Bool.or_eq_false_iff.2 ⟨hupper, hlower⟩

theorem digitValue_lt (h : c.isDigit = true) : digitValue c < 10 := by
  have hhi : c.toNat ≤ 57 := (Char.isDigit_iff_toNat.1 h).2
  have hzero : '0'.toNat = 48 := rfl
  rw [digitValue]
  omega

theorem digitChar_digitValue (h : c.isDigit = true) : Nat.digitChar (digitValue c) = c := by
  have hlo : 48 ≤ c.toNat := (Char.isDigit_iff_toNat.1 h).1
  have hzero : '0'.toNat = 48 := rfl
  refine Char.toNat_inj.1 ?_
  rw [Nat.toNat_digitChar_of_lt_ten (digitValue_lt h), digitValue]
  omega

/-! ## Runs of digits -/

theorem toList_toString_ne_nil (n : Nat) : (toString n).toList ≠ [] := by
  rw [Nat.toString_eq_ofList_toDigits, String.toList_ofList]
  exact Nat.toDigits_ne_nil

theorem digitsValue_toString (n : Nat) : digitsValue (toString n).toList = n := by
  rw [Nat.toString_eq_ofList_toDigits, String.toList_ofList]
  exact Nat.ofDigitChars_ten_toDigits

theorem digitsValue_append_singleton (s : List Char) (c : Char) :
    digitsValue (s ++ [c]) = 10 * digitsValue s + digitValue c := by
  rw [digitsValue, List.foldl_append]
  rfl

theorem digitsValue_zeros_append (zeros : Nat) (s : List Char) :
    digitsValue (List.replicate zeros '0' ++ s) = digitsValue s := by
  induction zeros with
  | zero => rfl
  | succ zeros ih => exact ih

/-- A run of digits is zeros in front of the decimal of its value. -/
theorem exists_zeros_of_isDigit (hne : s ≠ []) (h : ∀ c ∈ s, c.isDigit = true) :
    ∃ zeros, s = List.replicate zeros '0' ++ (toString (digitsValue s)).toList := by
  simp only [Nat.toString_eq_ofList_toDigits, String.toList_ofList]
  -- The number grows at its last digit.
  induction s using List.reverseRecOn with
  | nil => exact absurd rfl hne
  | append_singleton s c ih =>
    obtain ⟨hs, hc⟩ := List.forall_mem_append.1 h
    replace hc : c.isDigit = true := hc c (List.mem_singleton_self c)
    have hlast : Nat.toDigits 10 (digitValue c) = [c] := by
      rw [Nat.toDigits_of_lt_base (digitValue_lt hc), digitChar_digitValue hc]
    rw [digitsValue_append_singleton]
    by_cases hnil : s = []
    · have hnone : digitsValue s = 0 := by rw [hnil]; rfl
      refine ⟨0, ?_⟩
      rw [hnone, Nat.mul_zero, Nat.zero_add, hlast, hnil]
      rfl
    · obtain ⟨zeros, hzeros⟩ := ih hnil hs
      rcases Nat.eq_zero_or_pos (digitsValue s) with hzero | hpos
      · -- All digits before the last one are zeros.
        rw [hzero, Nat.toDigits_zero, ← List.replicate_succ'] at hzeros
        refine ⟨zeros + 1, ?_⟩
        rw [hzero, Nat.mul_zero, Nat.zero_add, hlast, ← hzeros]
      · refine ⟨zeros, ?_⟩
        rw [← Nat.toDigits_append_toDigits (by decide) hpos (digitValue_lt hc), hlast,
          ← List.append_assoc, ← hzeros]

theorem digits?_eq_some_iff :
    digits? s = some n ↔ ∃ zeros, s = List.replicate zeros '0' ++ (toString n).toList := by
  unfold digits?
  constructor
  · intro h
    split at h
    · rename_i hs
      cases h
      exact exists_zeros_of_isDigit hs.1 (List.all_eq_true.1 hs.2)
    · cases h
  · rintro ⟨zeros, rfl⟩
    have hne : List.replicate zeros '0' ++ (toString n).toList ≠ [] :=
      List.append_ne_nil_of_right_ne_nil _ (toList_toString_ne_nil n)
    have hall : ∀ c ∈ List.replicate zeros '0' ++ (toString n).toList, c.isDigit = true := by
      intro c hc
      rcases List.mem_append.1 hc with hc | hc
      · rw [List.eq_of_mem_replicate hc]
        rfl
      · exact isDigit_of_mem_toString hc
    rw [if_pos ⟨hne, List.all_eq_true.2 hall⟩, digitsValue_zeros_append, digitsValue_toString]

/-! ## Numbers with a sign -/

/-- A run of digits begins with no sign. -/
theorem dropPlus_of_digits (h : digits? s = some n) : dropPlus s = s := by
  unfold dropPlus
  split
  · cases h
  · rfl

/-- A number is read exactly from what writes one that is not too large. -/
theorem natural?_eq_some_iff : natural? bound s = some n ↔ n ≤ bound ∧ IsNumeral s n := by
  have hdigits : digits? (dropPlus s) = some n ↔ IsNumeral s n := by
    constructor
    · intro h
      obtain ⟨zeros, hzeros⟩ := digits?_eq_some_iff.1 h
      unfold dropPlus at hzeros
      split at hzeros
      · exact ⟨['+'], zeros, .inr rfl, congrArg ('+' :: ·) hzeros⟩
      · exact ⟨[], zeros, .inl rfl, hzeros⟩
    · rintro ⟨sign, zeros, rfl | rfl, rfl⟩
      · have h : digits? (List.replicate zeros '0' ++ (toString n).toList) = some n :=
          digits?_eq_some_iff.2 ⟨zeros, rfl⟩
        rw [List.nil_append, dropPlus_of_digits h, h]
      · exact digits?_eq_some_iff.2 ⟨zeros, rfl⟩
  rw [← hdigits]
  unfold natural?
  cases digits? (dropPlus s) with
  | none => simp
  | some m =>
    simp only [Option.some.injEq]
    split <;> grind

theorem isNumeral_toString (n : Nat) : IsNumeral (toString n).toList n := ⟨[], 0, .inl rfl, rfl⟩

theorem ne_nil_of_isNumeral (h : IsNumeral s n) : s ≠ [] := by
  obtain ⟨sign, zeros, -, rfl⟩ := h
  simp

theorem isDigit_or_eq_of_mem_numeral (h : IsNumeral s n) (hc : c ∈ s) :
    c.isDigit = true ∨ c = '+' := by
  obtain ⟨sign, zeros, hsign, rfl⟩ := h
  rcases List.mem_append.1 hc with hc | hc
  · rcases hsign with rfl | rfl
    · cases hc
    · exact .inr (List.mem_singleton.1 hc)
  · rcases List.mem_append.1 hc with hc | hc
    · rw [List.eq_of_mem_replicate hc]
      exact .inl rfl
    · exact .inl (isDigit_of_mem_toString hc)

end Crontab.Text
