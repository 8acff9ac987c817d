import Crontab.Pattern.Writing
import Crontab.Proofs.Field.Grammar
import Crontab.Proofs.Text.Numeral

/-!
# Reading what was written

Reading the text of a pattern in writing gives back the numbers that were written, whatever their
order, their repetitions and the blanks between the fields.

* `Matcher.HoldsExactly` — the matcher of the numbers written in a field.
* `itemOf`, `writtenAs_writeValue`, `readField_write` — the item of a written number, and the set read
  for a written field.
* `Matcher.read_write`, `Writing.read_write` — the same for a token and a sub-pattern.
* `Writing.parse_writeAll` — the pattern that is read has the written sub-patterns, one by one.
-/

set_option autoImplicit false

namespace Crontab

open Text

/-- Whether a matcher holds the numbers of a list and no others; in a list of days `lastDay` is no
number but says that the last day is accepted. -/
def Matcher.HoldsExactly (f : Field) (values : List Nat) : Matcher → Prop
  | .always => False
  | .values set => f ≠ .dayOfMonth ∧ ∀ v, v ∈ set ↔ v ∈ values
  | .dayOfMonth days last =>
    f = .dayOfMonth ∧ (∀ v, v ∈ days ↔ v ∈ values ∧ v ≠ Field.lastDay) ∧
      (last = true ↔ Field.lastDay ∈ values)

/-! ## The values of a field -/

namespace Field

variable {f : Field} {v : Nat} {c : Char}

theorem isDigit_or_eq_of_mem_writeValue (h : c ∈ f.writeValue v) : c.isDigit = true ∨ c = 'L' := by
  unfold writeValue at h
  split at h
  · exact .inr (List.mem_singleton.1 h)
  · exact .inl (isDigit_of_mem_toString h)

theorem writeValue_ne_nil (f : Field) (v : Nat) : f.writeValue v ≠ [] := by
  unfold writeValue
  split
  · exact List.cons_ne_nil _ _
  · exact toList_toString_ne_nil v

theorem not_blank_of_mem_writeValue (h : c ∈ f.writeValue v) : isBlank c = false := by
  rcases isDigit_or_eq_of_mem_writeValue h with h | rfl
  · exact not_blank_of_isDigit h
  · decide

theorem not_mem_writeValue (hc : c.isDigit = false) (hL : c ≠ 'L') : c ∉ f.writeValue v := by
  intro h
  rcases isDigit_or_eq_of_mem_writeValue h with h | h
  · rw [h] at hc; cases hc
  · exact hL h

variable {values : List Nat}

theorem mem_write (h : c ∈ f.write values) :
    c = ',' ∨ ∃ v, c ∈ f.writeValue v := by
  rcases mem_intercalate h with h | ⟨w, hw, hc⟩
  · exact .inl h
  · obtain ⟨v, -, rfl⟩ := List.mem_map.1 hw
    exact .inr ⟨v, hc⟩

theorem not_blank_of_mem_write (h : c ∈ f.write values) : isBlank c = false := by
  rcases mem_write h with rfl | ⟨v, h⟩
  · decide
  · exact not_blank_of_mem_writeValue h

theorem not_mem_write (hc : c.isDigit = false) (hL : c ≠ 'L') (hcomma : c ≠ ',') :
    c ∉ f.write values := by
  intro h
  rcases mem_write h with h | ⟨v, h⟩
  · exact hcomma h
  · exact not_mem_writeValue hc hL h

theorem write_ne_nil (h : values ≠ []) : f.write values ≠ [] := by
  obtain ⟨v, vs, rfl⟩ := List.exists_cons_of_ne_nil h
  obtain ⟨c, cs, hc⟩ := List.exists_cons_of_ne_nil (writeValue_ne_nil f v)
  unfold write
  cases vs <;> simp [List.intercalate, hc]

end Field

/-! ## Reading a field -/

section

variable {f : Field} {v : Nat}

theorem isWildcard_eq_false {s : List Char} (hstar : '*' ∉ s) (hmark : '?' ∉ s) :
    isWildcard s = false := by
  rw [← Bool.not_eq_true, isWildcard_iff]
  rintro (rfl | rfl)
  · exact hstar List.mem_cons_self
  · exact hmark List.mem_cons_self

/-- The item that is read from a written number. -/
def itemOf (f : Field) (v : Nat) : Item :=
  if f = .dayOfMonth ∧ v = Field.lastDay then .lastDay else .values (.single v) none

theorem writtenAs_writeValue (h : f.Holds v) : (itemOf f v).WrittenAs f (f.writeValue v) := by
  unfold Field.writeValue itemOf
  split
  · rename_i hlast
    exact .upper hlast.1
  · rename_i hlast
    obtain ⟨hmin, htop⟩ := h.resolve_right hlast
    exact .whole (.single ⟨.inl (isNumeral_toString v), hmin, htop.trans f.top_le_max⟩)

theorem members_itemOf (h : f.Holds v) : (itemOf f v).members f = [v] := by
  unfold itemOf
  split
  · rename_i hlast
    rw [hlast.2]
    rfl
  · rename_i hlast
    obtain ⟨-, htop⟩ := h.resolve_right hlast
    have hnormal : f.normalize v = v := by
      unfold Field.normalize
      split
      · rename_i hweek
        obtain ⟨rfl, rfl⟩ := hweek
        cases htop.not_gt (by decide)
      · rfl
    simp [Item.members, Span.bounds, progression, hnormal]

variable {values : List Nat}

theorem readItems_map (h : ∀ v ∈ values, f.Holds v) :
    readItems f (values.map f.writeValue) = .ok (values.map (itemOf f)) := by
  have hblank : ∀ s ∈ values.map f.writeValue, ∀ c ∈ s, isBlank c = false := by
    intro s hs c hc
    obtain ⟨v, -, rfl⟩ := List.mem_map.1 hs
    exact Field.not_blank_of_mem_writeValue hc
  rw [readItems_eq_ok_iff hblank, List.forall₂_map_left_iff, List.forall₂_map_right_iff,
    List.forall₂_same]
  exact fun v hv => writtenAs_writeValue (h v hv)

theorem readField_write (hne : values ≠ []) (h : ∀ v ∈ values, f.Holds v) :
    readField f (f.write values) = .ok (.ofList values) := by
  have hcomma : ∀ w ∈ values.map f.writeValue, ',' ∉ w := by
    intro w hw
    obtain ⟨v, -, rfl⟩ := List.mem_map.1 hw
    exact Field.not_mem_writeValue rfl (by decide)
  have hpieces : piecesAt ',' (f.write values) = values.map f.writeValue :=
    piecesAt_intercalate hcomma (by simpa using hne)
  have hmembers : (values.map (itemOf f)).flatMap (Item.members f) = values := by
    rw [List.flatMap_map, List.flatMap_congr fun v hv => members_itemOf (h v hv)]
    exact List.flatMap_singleton' values
  unfold readField
  rw [hpieces, readItems_map h]
  simp only [itemSet, hmembers]

/-- The matcher of a written field holds what was written. -/
theorem Matcher.read_write (hne : values ≠ []) (h : ∀ v ∈ values, f.Holds v) :
    ∃ x, Matcher.read f (f.write values) = .ok x ∧ x.HoldsExactly f values := by
  have hwild : isWildcard (f.write values) = false :=
    isWildcard_eq_false (Field.not_mem_write rfl (by decide) (by decide))
      (Field.not_mem_write rfl (by decide) (by decide))
  have hset : ∀ v, v ∈ ValueSet.ofList values ↔ v ∈ values :=
    ValueSet.mem_ofList fun v hv => Field.lt_of_holds (h v hv)
  refine ⟨.ofField f (.ofList values), ?_, ?_⟩
  · unfold read
    rw [hwild, readField_write hne h]
    rfl
  · unfold ofField
    split
    · rename_i hf
      refine ⟨hf, fun v => ?_, ?_⟩
      · rw [ValueSet.mem_erase, hset]
      · rw [← ValueSet.mem_iff, hset]
    · rename_i hf
      exact ⟨hf, hset⟩

end

/-! ## Reading a sub-pattern -/

theorem fieldTokens_map (token : Field → List Char) :
    fieldTokens (Field.all.map token) = Field.all.map fun f => (f, token f) := rfl

namespace Writing

theorem words_write (w : Writing) :
    words w.write = Field.all.map fun f => f.write (w.values f) := by
  refine words_flatMap (fun f _ => ⟨Field.write_ne_nil (w.values_ne_nil f), ?_⟩)
    (fun f _ => w.isBlank_gap f) ?_
  · intro c hc
    exact Field.not_blank_of_mem_write hc
  · intro f hf
    exact w.gap_ne_nil f (by rintro rfl; revert hf; decide)

theorem bar_not_mem_write (w : Writing) : '|' ∉ w.write := by
  intro h
  obtain ⟨f, -, hc⟩ := List.mem_flatMap.1 h
  rcases List.mem_append.1 hc with hc | hc
  · have := w.isBlank_gap f _ hc
    cases this
  · exact Field.not_mem_write rfl (by decide) (by decide) hc

/-- A written sub-pattern is read, and its matchers hold what was written in their fields. -/
theorem read_write (w : Writing) :
    ∃ a, SubPattern.read w.write = .ok a ∧ ∀ f, (a.matcher f).HoldsExactly f (w.values f) := by
  choose x hread hholds using fun f => Matcher.read_write (w.values_ne_nil f) (w.holds f)
  have hmatcher : ∀ f, SubPattern.matcher
      ⟨x .second, x .minute, x .hour, x .dayOfMonth, x .month, x .dayOfWeek⟩ f = x f := by
    intro f
    cases f <;> rfl
  refine ⟨_, ?_, fun f => by rw [hmatcher]; exact hholds f⟩
  refine (SubPattern.ofTokens_eq_ok_iff _).2 ?_
  rw [words_write, fieldTokens_map]
  refine ⟨.inr (.inl rfl), fun h => (by cases h), ?_⟩
  intro c hc
  obtain ⟨f, -, rfl⟩ := List.mem_map.1 hc
  rw [hmatcher]
  exact hread f

theorem piecesAt_writeAll {ws : List Writing} (h : ws ≠ []) :
    piecesAt '|' (writeAll ws).toList = ws.map write := by
  rw [writeAll, String.toList_ofList]
  refine piecesAt_intercalate ?_ (by simpa using h)
  intro s hs
  obtain ⟨w, -, rfl⟩ := List.mem_map.1 hs
  exact w.bar_not_mem_write

/-- **Reading undoes writing.**  The text of one or more written sub-patterns is a pattern.  It has
as many sub-patterns as were written, and, one by one and field by field, their matchers hold the
numbers that were written and no others; the last day of a month is accepted where its letter was
written, and only there. -/
theorem parse_writeAll (ws : List Writing) (h : ws ≠ []) :
    ∃ p, Pattern.parse (writeAll ws) = .ok p ∧ p.size = ws.length ∧
      List.Forall₂ (fun w a => ∀ f, (SubPattern.matcher a f).HoldsExactly f (w.values f)) ws
        p.alternatives := by
  choose a hread hholds using read_write
  have hpieces := piecesAt_writeAll h
  have hreadable : ∀ piece ∈ piecesAt '|' (writeAll ws).toList, PieceReadable piece := by
    intro piece hp
    rw [hpieces] at hp
    obtain ⟨w, -, rfl⟩ := List.mem_map.1 hp
    exact SubPattern.exists_read_iff.1 ⟨_, hread w⟩
  refine ⟨⟨_, ws.map a⟩, Pattern.parse_eq_ok_iff.2 ⟨trim_ne_nil_of_readable hreadable, rfl, ?_⟩,
    List.length_map _, ?_⟩
  · rw [hpieces, List.forall₂_map_left_iff, List.forall₂_map_right_iff, List.forall₂_same]
    exact fun w _ => hread w
  · rw [List.forall₂_map_right_iff, List.forall₂_same]
    exact fun w _ => hholds w

/-- The last second of a year, its day written as a number and as the last one. -/
def yearEnd : Writing where
  values
    | .second => [59]
    | .minute => [59, 59]
    | .hour => [23]
    | .dayOfMonth => [31, Field.lastDay, 31]
    | .month => [12]
    | .dayOfWeek => [6, 0, 3, 1, 2, 4, 5]
  gap f := if f = .second then [] else ['\t', ' ']
  values_ne_nil f := by cases f <;> decide
  holds f := by cases f <;> decide
  isBlank_gap f := List.all_eq_true.1 (by cases f <;> decide)
  gap_ne_nil f hf := by rw [if_neg hf]; exact List.cons_ne_nil _ _

/-- Midnight of every February's first and last day. -/
def februaryEnds : Writing where
  values
    | .dayOfMonth => [Field.lastDay, 1]
    | .month => [2]
    | .dayOfWeek => [0, 1, 2, 3, 4, 5, 6]
    | _ => [0]
  gap _ := [' ']
  values_ne_nil f := by cases f <;> decide
  holds f := by cases f <;> decide
  isBlank_gap f := List.all_eq_true.1 (by cases f <;> decide)
  gap_ne_nil _ _ := List.cons_ne_nil _ _

/-- Numbers out of order and written twice, the last day with and without the number 31, and blanks
of two kinds. -/
theorem parse_writeAll_last_days :
    writeAll [yearEnd, februaryEnds] =
        "59\t 59,59\t 23\t 31,L,31\t 12\t 6,0,3,1,2,4,5| 0 0 0 L,1 2 0,1,2,3,4,5,6" ∧
      [yearEnd, februaryEnds] ≠ [] ∧
      ∃ p, Pattern.parse
          "59\t 59,59\t 23\t 31,L,31\t 12\t 6,0,3,1,2,4,5| 0 0 0 L,1 2 0,1,2,3,4,5,6" = .ok p ∧
        p.size = 2 ∧ List.Forall₂
          (fun w a => ∀ f, (SubPattern.matcher a f).HoldsExactly f (w.values f))
          [yearEnd, februaryEnds] p.alternatives :=
  ⟨rfl, by decide, parse_writeAll [yearEnd, februaryEnds] (by decide)⟩

end Writing

end Crontab
