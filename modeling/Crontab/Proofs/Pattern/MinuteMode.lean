import Crontab.Proofs.Field.Grammar

/-!
# Patterns that do not look at seconds

A pattern that does not look at seconds accepts a moment exactly when, looking at them, it would
accept the moment at some second of the minute.  One direction is a matter of leaving out a
condition.  The other one needs that no text which can be read asks for a second that never comes.

* `mem_of_mem_fieldTokens` — the tokens written for fields are words.
* `Matcher.exists_accepts_of_read` — what is written for a field other than the day of the month can
  be met.
* `SubPattern.accepts_withSecond` — looking at the second adds a condition.
* `SubPattern.accepts_iff_exists_second`, `Pattern.accepts_iff_exists_second` — the second that can be
  chosen, for a sub-pattern and for a pattern.
* `Pattern.minute_mode_is_projection` — the two modes, and that they agree if no sub-pattern is
  written with a second.
-/

set_option autoImplicit false

namespace Crontab

open Text

theorem mem_of_mem_fieldTokens {tokens : List (List Char)} {c : Field × List Char}
    (h : c ∈ fieldTokens tokens) : c.2 ∈ tokens :=
  (List.of_mem_zip h).2

/-- A condition that was read is met by some number that the field can show. -/
theorem Matcher.exists_accepts_of_read {f : Field} {token : List Char} {x : Matcher}
    (hf : f ≠ .dayOfMonth) (hs : ∀ c ∈ token, isBlank c = false)
    (h : Matcher.read f token = .ok x) : ∃ v, f.min ≤ v ∧ v ≤ f.top ∧ x.accepts v = true := by
  rcases read_eq_ok_iff.1 h with ⟨-, rfl⟩ | ⟨-, set, hset, rfl⟩
  · exact ⟨f.min, Nat.le_refl _, f.min_le_top, rfl⟩
  · rw [Field.parse_ofList_eq_ok_iff] at hset
    obtain ⟨⟨v, hv⟩, hholds⟩ := holds_of_readField hs hset
    obtain ⟨hmin, htop⟩ := (hholds v hv).resolve_right fun hlast => hf hlast.1
    refine ⟨v, hmin, htop, ?_⟩
    rw [ofField, if_neg hf]
    exact hv

namespace SubPattern

/-- Looking at the second adds the condition on it. -/
theorem accepts_withSecond (p : SubPattern) (m : Moment) (second : Nat) :
    p.accepts { m with second } true = (p.second.accepts second && p.accepts m false) := by
  simp [accepts, Bool.and_assoc]

/-- The second of a sub-pattern that was read can be met. -/
theorem exists_second_of_read {piece : List Char} {p : SubPattern} (h : read piece = .ok p) :
    ∃ second, second ≤ 59 ∧ p.second.accepts second = true := by
  obtain ⟨hlen, hfree, hread⟩ := (ofTokens_eq_ok_iff (words piece)).1 h
  rcases exists_fieldToken hlen .second with ⟨token, hc⟩ | ⟨h5, -⟩
  · have hday : Field.second ≠ .dayOfMonth := by decide
    have hblank := not_blank_of_mem_words (mem_of_mem_fieldTokens hc)
    obtain ⟨v, -, htop, hv⟩ := Matcher.exists_accepts_of_read hday hblank (hread _ hc)
    exact ⟨v, htop, hv⟩
  · rw [hfree h5]
    exact ⟨0, Nat.zero_le _, rfl⟩

theorem accepts_iff_exists_second {piece : List Char} {p : SubPattern} (h : read piece = .ok p)
    (m : Moment) :
    p.accepts m false = true ↔
      ∃ second, second ≤ 59 ∧ p.accepts { m with second } true = true := by
  simp only [accepts_withSecond, Bool.and_eq_true]
  constructor
  · intro hm
    obtain ⟨second, hle, hsecond⟩ := exists_second_of_read h
    exact ⟨second, hle, hsecond, hm⟩
  · rintro ⟨_, -, -, hm⟩
    exact hm

/-- Five tokens leave the second free. -/
theorem accepts_of_five_tokens {piece : List Char} {p : SubPattern} (h : read piece = .ok p)
    (h5 : (words piece).length = 5) (m : Moment) : p.accepts m true = p.accepts m false := by
  have hfree : p.second = .always := ((ofTokens_eq_ok_iff (words piece)).1 h).2.1 h5
  have hsecond := p.accepts_withSecond m m.second
  rw [hfree] at hsecond
  exact hsecond

end SubPattern

namespace Pattern

variable {text : String} {p : Pattern}

theorem accepts_iff_exists_second (h : parse text = .ok p) (m : Moment) :
    p.accepts m false = true ↔
      ∃ second, second ≤ 59 ∧ p.accepts { m with second } true = true := by
  obtain ⟨-, -, hall⟩ := parse_eq_ok_iff.1 h
  simp only [accepts, List.any_eq_true]
  constructor
  · rintro ⟨a, ha, hm⟩
    obtain ⟨piece, -, hread⟩ := exists_left_of_forall₂ hall ha
    obtain ⟨second, hle, hsecond⟩ := (SubPattern.accepts_iff_exists_second hread m).1 hm
    exact ⟨second, hle, a, ha, hsecond⟩
  · rintro ⟨second, hle, a, ha, hsecond⟩
    obtain ⟨piece, -, hread⟩ := exists_left_of_forall₂ hall ha
    exact ⟨a, ha, (SubPattern.accepts_iff_exists_second hread m).2 ⟨second, hle, hsecond⟩⟩

theorem accepts_of_five_tokens (h : parse text = .ok p)
    (h5 : ∀ piece ∈ piecesAt '|' text.toList, (words piece).length = 5) (m : Moment) :
    p.accepts m true = p.accepts m false := by
  obtain ⟨-, -, hall⟩ := parse_eq_ok_iff.1 h
  have hsame : ∀ a ∈ p.alternatives, a.accepts m true = a.accepts m false := by
    intro a ha
    obtain ⟨piece, hpiece, hread⟩ := exists_left_of_forall₂ hall ha
    exact SubPattern.accepts_of_five_tokens hread (h5 piece hpiece) m
  rw [accepts, accepts, Bool.eq_iff_iff, List.any_eq_true, List.any_eq_true]
  exact exists_congr fun a => and_congr_right fun ha => by rw [hsame a ha]

/-- **Minute mode is the projection of second mode.**  A pattern that does not look at seconds
accepts a moment exactly when it accepts, looking at them, the moment at one of the seconds 0 to 59;
and whether it looks at them makes no difference if all its sub-patterns are written with five
tokens. -/
theorem minute_mode_is_projection (text : String) {p : Pattern} (h : parse text = .ok p) :
    (∀ m : Moment, p.accepts m false = true ↔
        ∃ second, second ≤ 59 ∧ p.accepts { m with second } true = true) ∧
      ((∀ piece ∈ text.toList.splitOn '|', (words piece).length = 5) →
        ∀ m : Moment, p.accepts m true = p.accepts m false) := by
  rw [← piecesAt_eq_splitOn]
  exact ⟨accepts_iff_exists_second h, fun h5 => accepts_of_five_tokens h h5⟩

/-- Noon of a leap day comes at second 30 and 59 only, or without seconds at all of them. -/
theorem minute_mode_on_leap_day :
    (∃ p, parse "30/29 0 12 L 2 *|0 8 * * mon" = .ok p ∧
      p.accepts ⟨5, 0, 12, 29, 2, 4, 2024, true⟩ true = false ∧
      (p.accepts ⟨5, 0, 12, 29, 2, 4, 2024, true⟩ false = true ↔
        ∃ second, second ≤ 59 ∧ p.accepts ⟨second, 0, 12, 29, 2, 4, 2024, true⟩ true = true)) ∧
      ∃ p, parse "0 12 L 2 *|0 8 * * mon" = .ok p ∧
        ∀ m : Moment, p.accepts m true = p.accepts m false :=
  ⟨⟨_, rfl, rfl, (minute_mode_is_projection "30/29 0 12 L 2 *|0 8 * * mon" rfl).1 _⟩,
    _, rfl, (minute_mode_is_projection "0 12 L 2 *|0 8 * * mon" rfl).2 (by decide)⟩

end Pattern

end Crontab
