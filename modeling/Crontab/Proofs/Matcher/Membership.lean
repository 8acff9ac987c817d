import Crontab.Matcher.Word

/-!
# Matchers accept their members

A matcher that is made of a set of numbers accepts these numbers and no others, however large the
others are.  In a set of days `Field.lastDay` is no number that is accepted, but stands for the last
day of a month.

* `ValueSet.ofList_inj`, `ValueSet.erase_ofList` — sets of lists by the members of the lists.
* `Word.ofList?_eq_some`, `Word.contains?_eq_some` — words hold what sets do, and no shift leads out
  of them.
* `Matcher.ofMembers?_eq_some`, `Matcher.accepts?_eq_some`, `Matcher.acceptsDay?_eq_some` — the same
  of matchers.
* `Matcher.ofDays_injective` — no two sets of days have one matcher.
* `Matcher.accepts_exactly_members` — what matchers of sets accept.
-/

set_option autoImplicit false

namespace Crontab

/-! ## Sets of lists -/

namespace ValueSet

section

variable {l k : List Nat} (hl : ∀ v ∈ l, v < 64)

include hl

theorem contains_ofList (v : Nat) : (ofList l).contains v = l.contains v := by
  rw [Bool.eq_iff_iff, ← mem_iff, mem_ofList hl, List.contains_iff_mem]

/-- The sets of two lists are equal when their members are. -/
theorem ofList_inj (hk : ∀ v ∈ k, v < 64) : ofList l = ofList k ↔ ∀ v, v ∈ l ↔ v ∈ k := by
  constructor
  · intro h v
    rw [← mem_ofList hl, h, mem_ofList hk]
  · intro h
    exact ext fun v => by rw [mem_ofList hl, mem_ofList hk, h]

theorem erase_ofList (w : Nat) : (ofList l).erase w = ofList (l.filter (· ≠ w)) := by
  have hrest : ∀ v ∈ l.filter (· ≠ w), v < 64 := fun v hv => hl v ((List.mem_filter.1 hv).1)
  refine ext fun v => ?_
  rw [mem_erase, mem_ofList hl, mem_ofList hrest, List.mem_filter, decide_eq_true_eq]

end

/-! ## Words -/

namespace Word

theorem bit?_of_lt {v : Nat} (hv : v < 64) : bit? v = some (BitVec.twoPow 64 v) := if_pos hv

theorem twoPow_ne_zero {v : Nat} (hv : v < 64) : BitVec.twoPow 64 v ≠ 0#64 := by
  intro h
  have hbit : (BitVec.twoPow 64 v).getLsbD v = true := by simp [hv]
  rw [h, BitVec.getLsbD_zero] at hbit
  cases hbit

/-- The bits of the members are put into the word of a set that is already there. -/
theorem foldlM_eq_some {l : List Nat} (hl : ∀ v ∈ l, v < 64) (s : ValueSet) :
    l.foldlM (fun bits v => (bit? v).map (bits ||| ·)) s.bits = some (l.foldl insert s).bits := by
  induction l generalizing s with
  | nil => rfl
  | cons v l ih =>
    obtain ⟨hv, hl⟩ := List.forall_mem_cons.1 hl
    rw [List.foldlM_cons, bit?_of_lt hv]
    exact ih hl (s.insert v)

theorem ofList?_eq_some {l : List Nat} (hl : ∀ v ∈ l, v < 64) :
    ofList? l = some (ValueSet.ofList l).bits :=
  foldlM_eq_some hl empty

/-- A mask asks for one bit, and beyond the word there is none. -/
theorem contains?_eq_some (s : ValueSet) (v : Nat) : contains? s.bits v = some (s.contains v) := by
  by_cases hv : v < 64
  · have hmask : (s.bits &&& BitVec.twoPow 64 v != 0#64) = s.bits.getLsbD v := by
      rw [BitVec.and_twoPow]
      cases s.bits.getLsbD v <;> simp [twoPow_ne_zero hv]
    rw [contains?, if_pos hv, bit?_of_lt hv, Option.map_some, hmask, contains]
  · rw [contains?, if_neg hv, contains, BitVec.getLsbD_of_ge _ _ (Nat.le_of_not_lt hv)]

end Word

end ValueSet

/-! ## Matchers -/

namespace Matcher

open ValueSet

theorem accepts?_eq_some (x : Matcher) (v : Nat) : x.accepts? v = some (x.accepts v) := by
  cases x with
  | always => rfl
  | values set => exact Word.contains?_eq_some set v
  | dayOfMonth days last => exact Word.contains?_eq_some days v

theorem acceptsDay?_eq_some (x : Matcher) (day month : Nat) (leap : Bool) :
    x.acceptsDay? day month leap = some (x.acceptsDay day month leap) := by
  cases x with
  | always => rfl
  | values set => exact Word.contains?_eq_some set day
  | dayOfMonth days last =>
    rw [acceptsDay?, Word.contains?_eq_some, acceptsDay]
    cases days.contains day <;> rfl

theorem ofMembers?_eq_some {l : List Nat} (hl : ∀ v ∈ l, v < 64) (f : Field) :
    ofMembers? f l = some (ofField f (ofList l)) := by
  have hdays : ∀ v ∈ l.filter (· ≠ Field.lastDay), v < 64 :=
    fun v hv => hl v ((List.mem_filter.1 hv).1)
  by_cases hf : f = .dayOfMonth
  · rw [ofMembers?, if_pos hf, Word.ofList?_eq_some hdays, ofField, if_pos hf, ofDays,
      erase_ofList hl, contains_ofList hl]
    rfl
  · rw [ofMembers?, if_neg hf, Word.ofList?_eq_some hl, ofField, if_neg hf]
    rfl

theorem accepts_ofDays_iff {set : ValueSet} {v : Nat} :
    (ofDays set).accepts v = true ↔ v ∈ set ∧ v ≠ Field.lastDay := mem_erase

theorem acceptsDay_ofDays_iff {set : ValueSet} {day month : Nat} {leap : Bool} :
    (ofDays set).acceptsDay day month leap = true ↔
      (day ∈ set ∧ day ≠ Field.lastDay) ∨
        (Field.lastDay ∈ set ∧ day = lastDayOfMonth month leap) := by
  simp only [ofDays, acceptsDay, Bool.or_eq_true, Bool.and_eq_true, beq_iff_eq, ← mem_iff,
    mem_erase]

/-- A matcher of days tells apart the sets that it can be made of: it keeps the mark of the last day
beside the numbers. -/
theorem ofDays_injective : Function.Injective ofDays := by
  intro set other h
  injection h with hdays hlast
  refine ext fun v => ?_
  by_cases hv : v = Field.lastDay
  · rw [hv, mem_iff, mem_iff, hlast]
  · have hmem : v ∈ set.erase Field.lastDay ↔ v ∈ other.erase Field.lastDay := by rw [hdays]
    simpa [mem_erase, hv] using hmem

/-- **A matcher accepts exactly its members.**  Take numbers below 64, in any order and repeated or
not.  As values they are accepted and nothing else is, no matter how large it is or which month it
is a day of.  As days they are accepted except `lastDay`, which has the last day of each month
accepted instead.  Other numbers give other matchers, of either kind.  In words the matchers are
made and asked with shifts that do not lead out of a word. -/
theorem accepts_exactly_members {l : List Nat} (hl : ∀ v ∈ l, v < 64) :
    (∀ v month leap, ((Matcher.values (ofList l)).accepts v = true ↔ v ∈ l) ∧
      ((Matcher.values (ofList l)).acceptsDay v month leap = true ↔ v ∈ l)) ∧
    (∀ v month leap, ((ofDays (ofList l)).accepts v = true ↔ v ∈ l ∧ v ≠ Field.lastDay) ∧
      ((ofDays (ofList l)).acceptsDay v month leap = true ↔
        (v ∈ l ∧ v ≠ Field.lastDay) ∨ (Field.lastDay ∈ l ∧ v = lastDayOfMonth month leap))) ∧
    (∀ k : List Nat, (∀ v ∈ k, v < 64) → (¬ ∀ v, v ∈ l ↔ v ∈ k) →
      Matcher.values (ofList l) ≠ .values (ofList k) ∧ ofDays (ofList l) ≠ ofDays (ofList k) ∧
      Matcher.values (ofList l) ≠ ofDays (ofList k)) ∧
    (ofMembers? .dayOfMonth l = some (ofDays (ofList l)) ∧
      ∀ f, f ≠ .dayOfMonth → ofMembers? f l = some (.values (ofList l))) ∧
    ∀ (x : Matcher) v month leap, x.accepts? v = some (x.accepts v) ∧
      x.acceptsDay? v month leap = some (x.acceptsDay v month leap) := by
  refine ⟨fun v month leap => ⟨mem_ofList hl v, mem_ofList hl v⟩, fun v month leap => ⟨?_, ?_⟩,
    fun k hk hne => ⟨fun h => ?_, fun h => ?_, nofun⟩, ⟨ofMembers?_eq_some hl _, fun f hf => ?_⟩,
    fun x v month leap => ⟨x.accepts?_eq_some v, x.acceptsDay?_eq_some v month leap⟩⟩
  · rw [accepts_ofDays_iff, mem_ofList hl]
  · rw [acceptsDay_ofDays_iff, mem_ofList hl, mem_ofList hl]
  · exact hne ((ofList_inj hl hk).1 (Matcher.values.inj h))
  · exact hne ((ofList_inj hl hk).1 (ofDays_injective h))
  · rw [ofMembers?_eq_some hl, ofField, if_neg hf]

/-- The first and the last bit of a word and the mark of the last day.  A number that agrees with a
member modulo 64 is not accepted. -/
theorem accepts_exactly_members_at_word_ends :
    (∀ v ∈ [63, 32, 0], v < 64) ∧
      (ofDays (ofList [63, 32, 0])).accepts 63 = true ∧
      (ofDays (ofList [63, 32, 0])).accepts 64 = false ∧
      (ofDays (ofList [63, 32, 0])).accepts 32 = false ∧
      (Matcher.values (ofList [63, 32, 0])).accepts 0xffffffff = false ∧
      (ofDays (ofList [63, 32, 0])).acceptsDay 29 2 true = true ∧
      ofDays (ofList [63, 32, 0]) ≠ ofDays (ofList [63, 0]) ∧
      ofMembers? .dayOfMonth [63, 32, 0] = some (ofDays (ofList [63, 32, 0])) := by
  have hl : ∀ v ∈ [63, 32, 0], v < 64 := by decide
  obtain ⟨hvalues, hdays, hother, ⟨hword, -⟩, -⟩ := accepts_exactly_members hl
  refine ⟨hl, ?_, ?_, ?_, ?_, ?_, ?_, hword⟩
  · exact (hdays 63 0 false).1.2 (by decide)
  · exact Bool.eq_false_iff.2 fun h => absurd ((hdays 64 0 false).1.1 h) (by decide)
  · exact Bool.eq_false_iff.2 fun h => absurd ((hdays 32 0 false).1.1 h) (by decide)
  · exact Bool.eq_false_iff.2 fun h => absurd ((hvalues 0xffffffff 0 false).1.1 h) (by decide)
  · exact (hdays 29 2 true).2.2 (by decide)
  · exact (hother [63, 0] (by decide) fun h => absurd ((h 32).1 (by decide)) (by decide)).2.1

end Matcher

end Crontab
