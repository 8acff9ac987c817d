import Crontab.Proofs.Field.Grammar

/-!
# Sunday as 7

Among the days of the week 7 stands for Sunday, and so do 0 and `sun`.  For a 7 without a step it
makes no difference which of them is written.  For a 7 with a step it does: after 7 there is no day
left in the week, so that the step leads nowhere, and after 0 it leads through the whole week.

* `Item.ValueText` — the texts of a value and of a value with a step.
* `Respelled` — two lists of such texts, where the second has another Sunday for some 7 in the
  first.
* `readField_of_valueTexts` — the set that is read from such texts.
* `exists_items_of_respelled` — the days that the second list has and the first one has not.
* `Field.parse_respelled` — the sets of both lists.
-/

set_option autoImplicit false

namespace Crontab

open Text

/-- The texts of a value and of a value with a step, with blanks wherever these do not matter. -/
inductive Item.ValueText (f : Field) : Item → List Char → Prop where
  | value {v : Nat} {s : List Char} (h : f.Names (trim s) v) :
    ValueText f (.values (.single v) none) s
  | stepped {v n : Nat} {s t : List Char} (h : f.Names (trim s) v) (hn : IsNumeral (trim t) n)
    (hpos : 0 < n) (hmax : n ≤ maxUnsigned64) :
    ValueText f (.values (.single v) (some n)) (s ++ '/' :: t)

/-- `Respelled ss ts steps`: in `ss` there are days of the week, each with a step or without one,
and in `ts` the same ones, save that some that are 7 in `ss` are 0 or `sun` there.  Those of them
that have a step have the `steps`. -/
inductive Respelled : List (List Char) → List (List Char) → List Nat → Prop where
  | nil : Respelled [] [] []
  | same {item : Item} {s : List Char} {ss ts : List (List Char)} {steps : List Nat}
    (h : item.ValueText .dayOfWeek s) (rest : Respelled ss ts steps) :
    Respelled (s :: ss) (s :: ts) steps
  | value {s t : List Char} {ss ts : List (List Char)} {steps : List Nat}
    (hs : Field.Names .dayOfWeek (trim s) 7) (ht : Field.Names .dayOfWeek (trim t) 0)
    (rest : Respelled ss ts steps) : Respelled (s :: ss) (t :: ts) steps
  | stepped {s t u : List Char} {n : Nat} {ss ts : List (List Char)} {steps : List Nat}
    (hs : Field.Names .dayOfWeek (trim s) 7) (ht : Field.Names .dayOfWeek (trim t) 0)
    (hn : IsNumeral (trim u) n) (hpos : 0 < n) (hmax : n ≤ maxUnsigned64)
    (rest : Respelled ss ts steps) :
    Respelled ((s ++ '/' :: u) :: ss) ((t ++ '/' :: u) :: ts) (n :: steps)

variable {f : Field} {v n : Nat} {s : List Char} {item : Item}

/-! ## Reading values -/

namespace Item

theorem read_of_trim_names (h : f.Names (trim s) v) :
    Item.read f s = .ok (.values (.single v) none) := by
  have hne : s ≠ [] := by
    rintro rfl
    exact ne_nil_of_names h rfl
  have hlast : f = .dayOfMonth → s ≠ ['l'] ∧ s ≠ ['L'] := by
    intro hf
    constructor
    · rintro rfl
      exact (ne_lastDay_of_span (.single h) hf).1 rfl
    · rintro rfl
      exact (ne_lastDay_of_span (.single h) hf).2 rfl
  rw [read_of_no_slash hne hlast (not_mem_of_trim_names h rfl (by decide) rfl),
    readSpan_of_trim_names h]
  rfl

/-- Blanks around the text of an item are cut off before it is read. -/
theorem read_trim_of_valueText (h : item.ValueText f s) : Item.read f (trim s) = .ok item := by
  cases h with
  | value h =>
    rw [← trim_trim] at h
    exact read_of_trim_names h
  | stepped h hn hpos hmax =>
    rw [← trim_trimLeft] at h
    rw [← trim_trimRight] at hn
    rw [trim_append_cons (by decide),
      read_append_slash (not_mem_of_trim_names h rfl (by decide) rfl),
      readStep_eq_ok_iff.2 ⟨hn, hpos, hmax⟩, readSpan_of_trim_names h]
    rfl

theorem comma_not_mem_of_valueText (h : item.ValueText f s) : ',' ∉ s := by
  cases h with
  | value h => exact not_mem_of_trim_names h rfl (by decide) rfl
  | stepped h hn _ _ =>
    rw [List.mem_append, List.mem_cons]
    rintro (hmem | heq | hmem)
    · exact not_mem_of_trim_names h rfl (by decide) rfl hmem
    · cases heq
    · rcases isDigit_or_eq_of_mem_numeral hn (mem_trim hmem rfl) with hdigit | heq
      · cases hdigit
      · cases heq

theorem legal_of_valueText (h : item.ValueText f s) : item.Legal f := by
  cases h with
  | value h => exact ⟨h.2, fun n hn => by cases hn⟩
  | stepped h _ hpos _ =>
    refine ⟨h.2, fun m hm => ?_⟩
    cases hm
    exact hpos

end Item

section

variable {ss : List (List Char)} {items : List Item}

theorem readItems_of_valueTexts (h : List.Forall₂ (fun s item => Item.ValueText f item s) ss items) :
    readItems f ss = .ok items := by
  induction h with
  | nil => rfl
  | cons hs _ ih =>
    unfold readItems
    rw [Item.read_trim_of_valueText hs, ih]

/-- Values with commas between are read as the set of what they stand for. -/
theorem readField_of_valueTexts (h : List.Forall₂ (fun s item => Item.ValueText f item s) ss items)
    (hne : ss ≠ []) :
    readField f ([','].intercalate ss) = .ok (itemSet f items) ∧
      ∀ v, v ∈ itemSet f items ↔ ∃ item ∈ items, item.Covers f v := by
  have hcomma : ∀ s ∈ ss, ',' ∉ s := by
    intro s hs
    obtain ⟨item, -, hitem⟩ := exists_right_of_forall₂ h hs
    exact Item.comma_not_mem_of_valueText hitem
  have hlegal : ∀ item ∈ items, item.Legal f := by
    intro item hi
    obtain ⟨s, -, hs⟩ := exists_left_of_forall₂ h hi
    exact Item.legal_of_valueText hs
  constructor
  · rw [readField, piecesAt_intercalate hcomma hne, readItems_of_valueTexts h]
  · intro v
    exact mem_itemSet_iff hlegal

end

/-! ## Sundays -/

/-- From 7 on there is Sunday only, whatever the step. -/
theorem Item.covers_seven_iff {step : Option Nat} :
    (Item.values (.single 7) step).Covers .dayOfWeek v ↔ v = 0 := by
  have hsteps : ∀ n, Field.OnSteps .dayOfWeek 7 7 n v ↔ v = 0 := by
    intro n
    constructor
    · rintro ⟨x, hlo, hhi, -, rfl⟩
      exact if_pos ⟨rfl, Nat.le_antisymm hhi hlo⟩
    · rintro rfl
      exact ⟨7, Nat.le_refl 7, Nat.le_refl 7, Nat.dvd_zero n, rfl⟩
  cases step with
  | none => exact hsteps 1
  | some n => exact hsteps n

/-- From 0 on a step leads through the week. -/
theorem Item.covers_zero_stepped_iff :
    (Item.values (.single 0) (some n)).Covers .dayOfWeek v ↔ v ≤ 6 ∧ n ∣ v := by
  constructor
  · rintro ⟨x, -, hhi, hdvd, rfl⟩
    have hx : x ≤ 6 := hhi
    rw [if_neg (by omega)]
    exact ⟨hx, hdvd⟩
  · rintro ⟨hv, hdvd⟩
    exact ⟨v, Nat.zero_le v, hv, hdvd, (if_neg (by omega)).symm⟩

theorem Item.covers_zero_iff : (Item.values (.single 0) none).Covers .dayOfWeek v ↔ v = 0 := by
  constructor
  · rintro ⟨x, -, hhi, -, rfl⟩
    rw [Nat.le_zero.1 hhi]
    rfl
  · rintro rfl
    exact ⟨0, Nat.le_refl 0, Nat.le_refl 0, Nat.dvd_zero 1, rfl⟩

/-- The second list has the days of the first one, and those that a step leads to from a Sunday
which is 7 in the first list. -/
theorem exists_items_of_respelled {ss ts : List (List Char)} {steps : List Nat}
    (h : Respelled ss ts steps) :
    ∃ items others, List.Forall₂ (fun s item => Item.ValueText .dayOfWeek item s) ss items ∧
      List.Forall₂ (fun t other => Item.ValueText .dayOfWeek other t) ts others ∧
      ∀ v, (∃ other ∈ others, other.Covers .dayOfWeek v) ↔
        (∃ item ∈ items, item.Covers .dayOfWeek v) ∨ 0 < v ∧ v ≤ 6 ∧ ∃ n ∈ steps, n ∣ v := by
  induction h with
  | nil => exact ⟨[], [], .nil, .nil, by simp⟩
  | @same item s ss ts steps h _ ih =>
    obtain ⟨items, others, hitems, hothers, hcovers⟩ := ih
    refine ⟨item :: items, item :: others, .cons h hitems, .cons h hothers, fun v => ?_⟩
    rw [List.exists_mem_cons_iff, List.exists_mem_cons_iff, hcovers, or_assoc]
  | value hs ht _ ih =>
    obtain ⟨items, others, hitems, hothers, hcovers⟩ := ih
    refine ⟨_, _, .cons (.value hs) hitems, .cons (.value ht) hothers, fun v => ?_⟩
    rw [List.exists_mem_cons_iff, List.exists_mem_cons_iff, Item.covers_zero_iff,
      Item.covers_seven_iff, hcovers, or_assoc]
  | @stepped s t u n ss ts steps hs ht hn hpos hmax _ ih =>
    obtain ⟨items, others, hitems, hothers, hcovers⟩ := ih
    refine ⟨_, _, .cons (.stepped hs hn hpos hmax) hitems,
      .cons (.stepped ht hn hpos hmax) hothers, fun v => ?_⟩
    rw [List.exists_mem_cons_iff, List.exists_mem_cons_iff, List.exists_mem_cons_iff,
      Item.covers_zero_stepped_iff, Item.covers_seven_iff, hcovers]
    -- Sunday itself is in both.
    rcases Nat.eq_zero_or_pos v with rfl | hv
    · simp
    · have hne : v ≠ 0 := Nat.pos_iff_ne_zero.1 hv
      simp only [hne, hv, true_and, false_or]
      rw [and_or_left, or_left_comm]

namespace Field

theorem names_day (h : v ≤ 7) : Names .dayOfWeek (toString v).toList v :=
  ⟨.inl (isNumeral_toString v), Nat.zero_le v, h⟩

/-- The name of Sunday, in any letter case. -/
theorem names_sun (h : sameLetters s "sun".toList = true) : Names .dayOfWeek s 0 :=
  ⟨.inr ⟨0, "sun", rfl, h, rfl⟩, by decide⟩

/-- **Which Sunday is written.**  Let there be days of the week with commas between, each with a
step or without one, and let 0 or `sun` be written for some that are 7.  Then both texts can be
read.  The second has all days of the first and besides these the days from 1 to 6 that are
multiples of a step behind one of these 7s, and no others.  So both have the same days if every
such step is longer than six days, and in particular if none of these 7s has a step. -/
theorem parse_respelled {ss ts : List (List Char)} {steps : List Nat} (h : Respelled ss ts steps)
    (hne : ss ≠ []) :
    ∃ set other, parse .dayOfWeek (String.ofList ([','].intercalate ss)) = .ok set ∧
      parse .dayOfWeek (String.ofList ([','].intercalate ts)) = .ok other ∧
      (∀ v, v ∈ other ↔ v ∈ set ∨ 0 < v ∧ v ≤ 6 ∧ ∃ n ∈ steps, n ∣ v) ∧
      ((∀ n ∈ steps, 6 < n) → other = set) := by
  obtain ⟨items, others, hitems, hothers, hcovers⟩ := exists_items_of_respelled h
  have hne' : ts ≠ [] := by
    rintro rfl
    cases h
    exact hne rfl
  obtain ⟨hset, hmem⟩ := readField_of_valueTexts hitems hne
  obtain ⟨hother, hmem'⟩ := readField_of_valueTexts hothers hne'
  have hdays : ∀ v, v ∈ itemSet .dayOfWeek others ↔
      v ∈ itemSet .dayOfWeek items ∨ 0 < v ∧ v ≤ 6 ∧ ∃ n ∈ steps, n ∣ v := by
    intro v
    rw [hmem, hmem', hcovers]
  refine ⟨itemSet .dayOfWeek items, itemSet .dayOfWeek others, parse_ofList_eq_ok_iff.2 hset,
    parse_ofList_eq_ok_iff.2 hother, hdays, fun hsteps => ValueSet.ext fun v => ?_⟩
  rw [hdays, or_iff_left]
  rintro ⟨hpos, hle, n, hn, hdvd⟩
  have := Nat.le_of_dvd hpos hdvd
  have := hsteps n hn
  omega

/-- Sunday is 7 twice, the second time with a step that is longer than the week. -/
theorem parse_respelled_beyond_week :
    ∃ set, parse .dayOfWeek "7,3/2, +07 /8" = .ok set ∧
      parse .dayOfWeek "Sun,3/2,0 /8" = .ok set ∧ set.toList = [0, 3, 5] := by
  have hsigned : Names .dayOfWeek "+07".toList 7 := ⟨.inl ⟨['+'], 1, .inr rfl, rfl⟩, by decide⟩
  have htwo : Item.ValueText .dayOfWeek _ "3/2".toList :=
    .stepped (s := "3".toList) (t := "2".toList) (names_day (v := 3) (by decide))
      (isNumeral_toString 2) (by decide) (by decide)
  obtain ⟨set, other, hset, hother, -, heq⟩ :=
    parse_respelled (.value (s := "7".toList) (t := "Sun".toList) (names_day (v := 7) (by decide))
        (names_sun (by decide)) <| .same htwo <|
      .stepped (s := " +07 ".toList) (t := "0 ".toList) (u := "8".toList) hsigned
        (names_day (v := 0) (by decide)) (isNumeral_toString 8) (by decide) (by decide) .nil)
      (List.cons_ne_nil _ _)
  have hvalues : (parse .dayOfWeek "7,3/2, +07 /8").toOption.map ValueSet.toList = some [0, 3, 5] :=
    by decide
  obtain rfl := heq (by decide)
  rw [show parse .dayOfWeek "7,3/2, +07 /8" = .ok other from hset] at hvalues
  exact ⟨other, hset, hother, Option.some.inj hvalues⟩

/-- After Sunday as 7 a step of two days leads nowhere, and after Sunday as 0 or by name it leads to
three more days. -/
theorem step_after_seven_leads_nowhere :
    Respelled ["7/2".toList] ["0/2".toList] [2] ∧ Respelled ["7/2".toList] ["sun/2".toList] [2] ∧
      ∃ set other, parse .dayOfWeek "7/2" = .ok set ∧ parse .dayOfWeek "0/2" = .ok other ∧
        parse .dayOfWeek "sun/2" = .ok other ∧ set.toList = [0] ∧ other.toList = [0, 2, 4, 6] := by
  have hseven : Names .dayOfWeek "7".toList 7 := names_day (v := 7) (by decide)
  refine ⟨?_, ?_, _, _, rfl, rfl, rfl, by decide, by decide⟩
  · exact .stepped (s := "7".toList) (t := "0".toList) (u := "2".toList) hseven
      (names_day (v := 0) (by decide)) (isNumeral_toString 2) (by decide) (by decide) .nil
  · exact .stepped (s := "7".toList) (t := "sun".toList) (u := "2".toList) hseven
      (names_sun (by decide)) (isNumeral_toString 2) (by decide) (by decide) .nil

end Field

end Crontab
