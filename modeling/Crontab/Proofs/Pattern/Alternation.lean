import Crontab.Proofs.Pattern.Meaning
import Crontab.Zone

/-!
# Alternation is disjunction

Two texts joined by a bar are a pattern exactly when both are patterns on their own, whatever bars
they hold themselves.  The pattern has the sub-patterns of both, in order, and accepts what one of
them accepts.

* `Pattern.matchers` — the conditions on one field, one for each sub-pattern.
* `exists_parse_iff` — a text is a pattern exactly when its pieces can be read.
* `parse_append_bar` — the sub-patterns of two patterns joined by a bar.
* `matchesAt_of_append` — alternatives of two patterns together match what one of these matches.
* `bar_joins_patterns` — a bar joins two patterns, and nothing else.
-/

set_option autoImplicit false

namespace Crontab.Pattern

open Text

/-- The conditions on a field, one for each sub-pattern. -/
def matchers (p : Pattern) (f : Field) : List Matcher := p.alternatives.map (·.matcher f)

theorem length_matchers (p : Pattern) (f : Field) : (p.matchers f).length = p.size :=
  List.length_map _

/-! ## Reading two texts joined by a bar -/

theorem exists_parse_iff {text : String} :
    (∃ p, parse text = .ok p) ↔ ∀ piece ∈ piecesAt '|' text.toList, PieceReadable piece := by
  constructor
  · rintro ⟨p, hp⟩
    obtain ⟨-, -, hread⟩ := parse_eq_ok_iff.1 hp
    exact SubPattern.exists_readAll_iff.1 ⟨_, SubPattern.readAll_eq_ok_iff.2 hread⟩
  · intro h
    obtain ⟨as, has⟩ := SubPattern.exists_readAll_iff.2 h
    have hread := SubPattern.readAll_eq_ok_iff.1 has
    exact ⟨⟨_, as⟩, parse_eq_ok_iff.2 ⟨trim_ne_nil_of_readable h, rfl, hread⟩⟩

theorem piecesAt_append_bar (a b : String) :
    piecesAt '|' (a ++ "|" ++ b).toList = piecesAt '|' a.toList ++ piecesAt '|' b.toList := by
  have htext : (a ++ "|" ++ b).toList = a.toList ++ '|' :: b.toList := by simp
  rw [htext, piecesAt_append_cons]

/-- A bar joins texts that are patterns, and only such. -/
theorem exists_parse_append_bar_iff {a b : String} :
    (∃ p, parse (a ++ "|" ++ b) = .ok p) ↔ (∃ q, parse a = .ok q) ∧ ∃ r, parse b = .ok r := by
  rw [exists_parse_iff, exists_parse_iff, exists_parse_iff, piecesAt_append_bar,
    List.forall_mem_append]

/-- The sub-patterns of two patterns joined by a bar are those of the one and then of the other. -/
theorem parse_append_bar {a b : String} {p q r : Pattern} (hp : parse (a ++ "|" ++ b) = .ok p)
    (hq : parse a = .ok q) (hr : parse b = .ok r) :
    p.alternatives = q.alternatives ++ r.alternatives := by
  obtain ⟨-, -, hpread⟩ := parse_eq_ok_iff.1 hp
  obtain ⟨-, -, hqread⟩ := parse_eq_ok_iff.1 hq
  obtain ⟨-, -, hrread⟩ := parse_eq_ok_iff.1 hr
  rw [piecesAt_append_bar] at hpread
  have hjoined := List.rel_append hqread hrread
  -- Both lists are what the pieces give when they are read, and reading has one result.
  have hfirst := SubPattern.readAll_eq_ok_iff.2 hpread
  rw [SubPattern.readAll_eq_ok_iff.2 hjoined] at hfirst
  exact (Except.ok.inj hfirst).symm

/-! ## What the joined pattern accepts -/

section

variable {p q r : Pattern} (h : p.alternatives = q.alternatives ++ r.alternatives)

include h

theorem matchers_of_append (f : Field) : p.matchers f = q.matchers f ++ r.matchers f := by
  rw [matchers, h, List.map_append]
  rfl

theorem size_of_append : p.size = q.size + r.size := by
  rw [size, h, List.length_append]
  rfl

theorem accepts_of_append (m : Moment) (matchSecond : Bool) :
    p.accepts m matchSecond = (q.accepts m matchSecond || r.accepts m matchSecond) := by
  rw [accepts, h, List.any_append]
  rfl

theorem matchesAt_of_append (zone : Zone) (millis : Int) (matchSecond : Bool) :
    p.matchesAt zone millis matchSecond =
      (q.matchesAt zone millis matchSecond || r.matchesAt zone millis matchSecond) := by
  unfold matchesAt
  cases zone.moment? millis with
  | none => rfl
  | some m => exact accepts_of_append h m matchSecond

end

/-- **A bar joins two patterns.**  Two texts with a bar between are a pattern exactly when each of
them is one.  Every field then has the conditions of the first and after them those of the second,
there are as many sub-patterns as both have together, and a moment is accepted, and an instant
matched in any zone and mode, exactly when one of the two does so. -/
theorem bar_joins_patterns (a b : String) :
    ((∃ p, parse (a ++ "|" ++ b) = .ok p) ↔ (∃ q, parse a = .ok q) ∧ ∃ r, parse b = .ok r) ∧
    ∀ p q r, parse (a ++ "|" ++ b) = .ok p → parse a = .ok q → parse b = .ok r →
      (∀ f, p.matchers f = q.matchers f ++ r.matchers f) ∧
      (p.size = q.size + r.size ∧ ∀ f, (p.matchers f).length = p.size) ∧
      (∀ m matchSecond, p.accepts m matchSecond = true ↔
        q.accepts m matchSecond = true ∨ r.accepts m matchSecond = true) ∧
      ∀ zone millis matchSecond, p.matchesAt zone millis matchSecond = true ↔
        q.matchesAt zone millis matchSecond = true ∨
          r.matchesAt zone millis matchSecond = true := by
  refine ⟨exists_parse_append_bar_iff, fun p q r hp hq hr => ?_⟩
  have h := parse_append_bar hp hq hr
  refine ⟨matchers_of_append h, ⟨size_of_append h, length_matchers p⟩, ?_, ?_⟩
  · intro m matchSecond
    rw [accepts_of_append h, Bool.or_eq_true]
  · intro zone millis matchSecond
    rw [matchesAt_of_append h, Bool.or_eq_true]

/-- Two texts with blanks at their ends, the first with a bar of its own: the sub-patterns are three,
and the last second of 1969 is matched by the second text alone. -/
theorem bar_joins_patterns_before_epoch :
    ∃ p q r, parse (" 0 12 L 2 *|30 0 9 1,L * ? 2099\t" ++ "|" ++ "59 59 23 L dec wed ") = .ok p ∧
      parse " 0 12 L 2 *|30 0 9 1,L * ? 2099\t" = .ok q ∧ parse "59 59 23 L dec wed " = .ok r ∧
      p.size = 3 ∧ q.matchesAt (.localTime (.fixed 0)) (-1) true = false ∧
      p.matchesAt (.localTime (.fixed 0)) (-1) true = true := by
  have hjoined :=
    (bar_joins_patterns " 0 12 L 2 *|30 0 9 1,L * ? 2099\t" "59 59 23 L dec wed ").2
  refine ⟨_, _, _, rfl, rfl, rfl, ?_, ?_, ?_⟩
  · exact (hjoined _ _ _ rfl rfl rfl).2.1.1
  · decide +kernel
  · refine ((hjoined _ _ _ rfl rfl rfl).2.2.2 (.localTime (.fixed 0)) (-1) true).2 (.inr ?_)
    decide +kernel

/-- A side without a token is no pattern, and neither is what a bar makes of it. -/
example : (parse ("* * * * *" ++ "|" ++ " ")).toOption = none := by decide

end Crontab.Pattern
