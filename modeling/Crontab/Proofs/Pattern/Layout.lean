import Crontab.Proofs.Pattern.Alternation

/-!
# Layout

What a pattern demands is in the tokens of its pieces.  How many blanks stand between the tokens
and at the ends of the pieces, and which of them, makes no difference; and as only blanks are cut
off the text that a pattern keeps, that text is a text of the same pattern.

* `tokens` — the tokens of a text, piece by piece.
* `parse_eq_ok_iff_tokens` — a pattern is read from the tokens of its text.
* `parse_toString` — what a pattern is shown as is a text of it.
* `layout_makes_no_difference` — both for all texts.
-/

set_option autoImplicit false

namespace Crontab

open Text

/-- The piece itself is quoted in refusals only. -/
theorem SubPattern.read_eq_ok_iff_words {piece : List Char} {a : SubPattern} :
    read piece = .ok a ↔ ofTokens [] (words piece) = .ok a := by
  rw [read, ofTokens_eq_ok_iff, ofTokens_eq_ok_iff]

namespace Pattern

/-- The tokens of a text, piece by piece. -/
def tokens (text : String) : List (List (List Char)) := (text.toList.splitOn '|').map words

theorem tokens_trim (text : String) : tokens (String.ofList (trim text.toList)) = tokens text := by
  unfold tokens
  rw [String.toList_ofList, ← piecesAt_eq_splitOn, ← piecesAt_eq_splitOn]
  exact map_words_piecesAt_trim (by decide) text.toList

/-- Texts with the same tokens are read alike, each of them leaving a text of its own. -/
theorem parse_eq_ok_iff_tokens {text : String} {p : Pattern} :
    parse text = .ok p ↔
      p.text = String.ofList (trim text.toList) ∧
        List.Forall₂ (fun ts a => SubPattern.ofTokens [] ts = .ok a) (tokens text)
          p.alternatives := by
  rw [parse_eq_ok_iff, tokens, List.forall₂_map_left_iff, ← piecesAt_eq_splitOn]
  simp only [← SubPattern.read_eq_ok_iff_words]
  constructor
  · rintro ⟨-, htext, hread⟩
    exact ⟨htext, hread⟩
  · rintro ⟨htext, hread⟩
    have hall := SubPattern.exists_readAll_iff.1 ⟨_, SubPattern.readAll_eq_ok_iff.2 hread⟩
    exact ⟨trim_ne_nil_of_readable hall, htext, hread⟩

variable {text : String} {p : Pattern}

theorem toString_eq_of_parse (h : parse text = .ok p) :
    toString p = String.ofList (trim text.toList) :=
  (parse_eq_ok_iff_tokens.1 h).1

/-- What a pattern is shown as is read as that very pattern. -/
theorem parse_toString (h : parse text = .ok p) : parse (toString p) = .ok p := by
  obtain ⟨htext, hread⟩ := parse_eq_ok_iff_tokens.1 h
  rw [parse_eq_ok_iff_tokens, toString_eq_of_parse h, String.toList_ofList, trim_trim, tokens_trim]
  exact ⟨htext, hread⟩

/-- A text with the tokens of a pattern's text is a pattern with the same alternatives. -/
theorem exists_parse_of_tokens {other : String} (h : parse text = .ok p)
    (htokens : tokens text = tokens other) :
    ∃ q, parse other = .ok q ∧ p.alternatives = q.alternatives := by
  obtain ⟨-, hread⟩ := parse_eq_ok_iff_tokens.1 h
  rw [htokens] at hread
  exact ⟨⟨_, p.alternatives⟩, parse_eq_ok_iff_tokens.2 ⟨rfl, hread⟩, rfl⟩

/-- **Layout makes no difference.**  A pattern is shown as its text without the blanks at the ends,
and this text is read as that very pattern.  Of two texts whose pieces have the same tokens, either
both are refused, or both are patterns with the same number of alternatives and in each field the
same conditions. -/
theorem layout_makes_no_difference :
    (∀ text p, parse text = .ok p →
      Trimmed text.toList (toString p).toList ∧ parse (toString p) = .ok p) ∧
    ∀ a b, tokens a = tokens b →
      ((∃ e, parse a = .error e) ∧ ∃ e, parse b = .error e) ∨
      ∃ p q, parse a = .ok p ∧ parse b = .ok q ∧ p.size = q.size ∧
        ∀ f, p.matchers f = q.matchers f := by
  refine ⟨fun text p hp => ⟨?_, parse_toString hp⟩, fun a b htokens => ?_⟩
  · rw [toString_eq_of_parse hp, String.toList_ofList]
    exact trimmed_trim text.toList
  · cases ha : parse a with
    | ok p =>
      obtain ⟨q, hq, halts⟩ := exists_parse_of_tokens ha htokens
      refine .inr ⟨p, q, rfl, hq, ?_, fun f => ?_⟩
      · rw [size, halts, size]
      · rw [matchers, halts, matchers]
    | error e =>
      refine .inl ⟨⟨e, rfl⟩, ?_⟩
      cases hb : parse b with
      | error e' => exact ⟨e', rfl⟩
      | ok q =>
        obtain ⟨p, hp, -⟩ := exists_parse_of_tokens hb htokens.symm
        rw [ha] at hp
        cases hp

/-- Tabs, ideographic spaces and line breaks around the tokens of two pieces, the last one without
meaning, and the same tokens with single spaces between. -/
theorem layout_makes_no_difference_to_a_year :
    ∃ p q, parse "\u3000 0\t12  L 2 * |\n30 0 9 1,L * ?\u20032099\u0085" = .ok p ∧
      parse (toString p) = .ok p ∧ parse "0 12 L 2 *|30 0 9 1,L * ? 2099" = .ok q ∧
      p.size = q.size ∧ ∀ f, p.matchers f = q.matchers f := by
  obtain ⟨hshown, hlaid⟩ := layout_makes_no_difference
  have hread := (hshown "\u3000 0\t12  L 2 * |\n30 0 9 1,L * ?\u20032099\u0085" _ rfl).2
  rcases hlaid "\u3000 0\t12  L 2 * |\n30 0 9 1,L * ?\u20032099\u0085"
    "0 12 L 2 *|30 0 9 1,L * ? 2099" (by decide) with ⟨⟨e, he⟩, -⟩ | ⟨p, q, hp, hq, h⟩
  · cases he
  · cases hp
    exact ⟨_, q, rfl, hread, hq, h⟩

end Pattern

end Crontab
