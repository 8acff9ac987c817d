import Crontab.Pattern
import Crontab.Proofs.Text.Pieces
import Mathlib.Data.List.Forall2

/-!
# What the text of a pattern means

A text means a condition on moments: one of the pieces between its `|` must allow the moment, and a
piece allows it when each of its tokens does.  This is said here field by field, from the tokens of
a piece and the sets that `Field.parse` gives for them, without matchers.

* `fieldTokens` — the field that each token of a piece is written for.
* `Field.Denotes`, `Field.Allows`, `PieceAllows` — the moments that a set, a token and a piece allow.
* `Field.Admits`, `PieceReadable` — the tokens and pieces that can be read.
* `parse_eq_ok_iff`, `readAll_eq_ok_iff`, `ofTokens_eq_ok_iff`, `Matcher.read_eq_ok_iff` — what a
  successful reading says, one lemma for each reader.
* `exists_forall₂_iff`, `exists_right_of_forall₂` — texts and what is read from them, one by one.
* `parse_readable_and_accepts` — a text is a pattern exactly when all its pieces can be read, and the
  pattern accepts exactly the moments that one of the pieces allows.
-/

set_option autoImplicit false

namespace Crontab

open Text

/-! ## The condition in a text -/

/-- The number that a moment shows in a field. -/
def Moment.value (m : Moment) : Field → Nat
  | .second => m.second
  | .minute => m.minute
  | .hour => m.hour
  | .dayOfMonth => m.dayOfMonth
  | .month => m.month
  | .dayOfWeek => m.dayOfWeek

/-- The fields that tokens are written for, each with its token.  Five tokens leave out the second,
and a seventh one is written for no field. -/
def fieldTokens (tokens : List (List Char)) : List (Field × List Char) :=
  (if tokens.length = 5 then Field.all.tail else Field.all).zip tokens

namespace Field

/-- Whether a token can be read in a field. -/
def Admits (f : Field) (token : List Char) : Prop :=
  token = ['*'] ∨ token = ['?'] ∨ ∃ set, f.parse (String.ofList token) = .ok set

/-- The moments whose number in the field is one of a set; in a set of days `lastDay` is no number
but stands for the last day of the moment's month. -/
def Denotes (f : Field) (set : ValueSet) (m : Moment) : Prop :=
  if f = .dayOfMonth then
    (m.dayOfMonth ∈ set ∧ m.dayOfMonth ≠ lastDay) ∨
      (lastDay ∈ set ∧ m.dayOfMonth = lastDayOfMonth m.month m.leapYear)
  else m.value f ∈ set

/-- The moments that a token allows in a field. -/
def Allows (f : Field) (token : List Char) (m : Moment) : Prop :=
  token = ['*'] ∨ token = ['?'] ∨ ∃ set, f.parse (String.ofList token) = .ok set ∧ f.Denotes set m

end Field

/-- Whether a piece of a text can be read: it has five, six or seven tokens, and each one that is
written for a field can be read there. -/
def PieceReadable (piece : List Char) : Prop :=
  ((words piece).length = 5 ∨ (words piece).length = 6 ∨ (words piece).length = 7) ∧
    ∀ c ∈ fieldTokens (words piece), c.1.Admits c.2

/-- The moments that all tokens of a piece allow; the second counts only when `matchSecond` is
set. -/
def PieceAllows (piece : List Char) (m : Moment) (matchSecond : Bool) : Prop :=
  ∀ c ∈ fieldTokens (words piece), (c.1 = .second ∧ matchSecond = false) ∨ c.1.Allows c.2 m

/-- Every field has a token, except the second among five tokens. -/
theorem exists_fieldToken {tokens : List (List Char)}
    (h : tokens.length = 5 ∨ tokens.length = 6 ∨ tokens.length = 7) (f : Field) :
    (∃ token, (f, token) ∈ fieldTokens tokens) ∨ (tokens.length = 5 ∧ f = .second) := by
  match tokens with
  | [_, _, _, _, _] | [_, _, _, _, _, _] | [_, _, _, _, _, _, _] =>
    cases f <;> simp [fieldTokens, Field.all]

/-! ## Matchers by field -/

/-- The matcher of a field. -/
def SubPattern.matcher (p : SubPattern) : Field → Matcher
  | .second => p.second
  | .minute => p.minute
  | .hour => p.hour
  | .dayOfMonth => p.dayOfMonth
  | .month => p.month
  | .dayOfWeek => p.dayOfWeek

/-- Whether a matcher accepts a moment's number in a field. -/
def Matcher.acceptsIn (f : Field) (x : Matcher) (m : Moment) : Bool :=
  if f = .dayOfMonth then x.acceptsDay m.dayOfMonth m.month m.leapYear else x.accepts (m.value f)

/-- A sub-pattern accepts a moment when each field's matcher does. -/
theorem SubPattern.accepts_iff {p : SubPattern} {m : Moment} {matchSecond : Bool} :
    p.accepts m matchSecond = true ↔
      ∀ f, (f = .second ∧ matchSecond = false) ∨ (p.matcher f).acceptsIn f m = true := by
  simp only [accepts, Bool.and_eq_true, Bool.or_eq_true, Bool.not_eq_true']
  constructor
  · rintro ⟨⟨⟨⟨⟨hs, hmi⟩, hh⟩, hd⟩, hmo⟩, hw⟩ f
    cases f with
    | second => exact hs.imp (fun h => ⟨rfl, h⟩) id
    | minute => exact Or.inr hmi
    | hour => exact Or.inr hh
    | dayOfMonth => exact Or.inr hd
    | month => exact Or.inr hmo
    | dayOfWeek => exact Or.inr hw
  · intro h
    have at' : ∀ f, f ≠ .second → (p.matcher f).acceptsIn f m = true := fun f hf =>
      (h f).resolve_left fun e => hf e.1
    exact ⟨⟨⟨⟨⟨(h .second).imp And.right id, at' .minute (by decide)⟩, at' .hour (by decide)⟩,
      at' .dayOfMonth (by decide)⟩, at' .month (by decide)⟩, at' .dayOfWeek (by decide)⟩

/-- The matcher of a set accepts the moments that the set denotes. -/
theorem Matcher.acceptsIn_ofField {f : Field} {set : ValueSet} {m : Moment} :
    (Matcher.ofField f set).acceptsIn f m = true ↔ f.Denotes set m := by
  unfold acceptsIn Field.Denotes ofField
  split
  · simp only [ofDays, acceptsDay, Bool.or_eq_true, Bool.and_eq_true, beq_iff_eq,
      ← ValueSet.mem_iff, ValueSet.mem_erase]
  · exact ValueSet.mem_iff.symm

/-! ## Reading a token -/

theorem isWildcard_iff {s : List Char} : isWildcard s = true ↔ s = ['*'] ∨ s = ['?'] := by
  simp [isWildcard]

theorem Field.parse_ofList_eq_ok_iff {f : Field} {token : List Char} {set : ValueSet} :
    f.parse (String.ofList token) = .ok set ↔ readField f token = .ok set := by
  unfold Field.parse
  rw [String.toList_ofList]
  cases readField f token <;> simp

/-- A matcher is read from a wildcard, or from the text of a set. -/
theorem Matcher.read_eq_ok_iff {f : Field} {token : List Char} {x : Matcher} :
    Matcher.read f token = .ok x ↔
      (isWildcard token = true ∧ x = .always) ∨
      (isWildcard token = false ∧ ∃ set, f.parse (String.ofList token) = .ok set ∧
        x = .ofField f set) := by
  simp only [Field.parse_ofList_eq_ok_iff, read]
  cases isWildcard token with
  | true => simp [eq_comm]
  | false => cases readField f token <;> simp [eq_comm]

theorem Matcher.exists_read_iff {f : Field} {token : List Char} :
    (∃ x, Matcher.read f token = .ok x) ↔ f.Admits token := by
  simp only [read_eq_ok_iff, Field.Admits, ← or_assoc, ← isWildcard_iff]
  cases isWildcard token <;> simp

/-- A matcher that was read accepts the moments that its token allows. -/
theorem Matcher.acceptsIn_of_read {f : Field} {token : List Char} {x : Matcher}
    (h : Matcher.read f token = .ok x) (m : Moment) :
    x.acceptsIn f m = true ↔ f.Allows token m := by
  unfold Field.Allows
  rw [← or_assoc, ← isWildcard_iff]
  rcases read_eq_ok_iff.1 h with ⟨hw, rfl⟩ | ⟨hw, set, hset, rfl⟩
  · have : Matcher.always.acceptsIn f m = true := by unfold acceptsIn; split <;> rfl
    simp [this, hw]
  · rw [acceptsIn_ofField]
    constructor
    · intro hd; exact Or.inr ⟨set, hset, hd⟩
    · rintro (h' | ⟨set', hset', hd⟩)
      · rw [hw] at h'; cases h'
      · rw [hset] at hset'; cases hset'; exact hd

/-! ## Reading a piece -/

theorem bind_eq_ok_iff {ε α β : Type} {x : Except ε α} {k : α → Except ε β} {b : β} :
    (x >>= k) = .ok b ↔ ∃ a, x = .ok a ∧ k a = .ok b := by
  cases x <;> simp [bind, Except.bind]

namespace SubPattern

theorem readFrom_eq_ok_iff {second : Matcher} {minute hour day month week : List Char}
    {p : SubPattern} :
    readFrom second minute hour day month week = .ok p ↔
      p.second = second ∧ Matcher.read .minute minute = .ok p.minute ∧
        Matcher.read .hour hour = .ok p.hour ∧ Matcher.read .dayOfMonth day = .ok p.dayOfMonth ∧
        Matcher.read .month month = .ok p.month ∧ Matcher.read .dayOfWeek week = .ok p.dayOfWeek := by
  simp only [readFrom, bind_eq_ok_iff]
  constructor
  · rintro ⟨_, h1, _, h2, _, h3, _, h4, _, h5, h⟩
    cases h
    exact ⟨rfl, h1, h2, h3, h4, h5⟩
  · rintro ⟨rfl, h1, h2, h3, h4, h5⟩
    exact ⟨_, h1, _, h2, _, h3, _, h4, _, h5, rfl⟩

/-- A sub-pattern is read from five, six or seven tokens; its matchers are those of the tokens, and
its second is free if no token is written for it. -/
theorem ofTokens_eq_ok_iff {piece : List Char} {p : SubPattern} (tokens : List (List Char)) :
    ofTokens piece tokens = .ok p ↔
      (tokens.length = 5 ∨ tokens.length = 6 ∨ tokens.length = 7) ∧
        (tokens.length = 5 → p.second = .always) ∧
        ∀ c ∈ fieldTokens tokens, Matcher.read c.1 c.2 = .ok (p.matcher c.1) := by
  match tokens with
  | [] | [_] | [_, _] | [_, _, _] | [_, _, _, _] => simp [ofTokens]
  | [_, _, _, _, _] => simp [ofTokens, readFrom_eq_ok_iff, fieldTokens, Field.all, matcher]
  | [_, _, _, _, _, _] | [_, _, _, _, _, _, _] =>
    simp only [ofTokens, bind_eq_ok_iff, readFrom_eq_ok_iff]
    simp [fieldTokens, Field.all, matcher]
  | _ :: _ :: _ :: _ :: _ :: _ :: _ :: _ :: _ =>
    simp only [ofTokens, List.length_cons]
    constructor
    · intro h; cases h
    · rintro ⟨h, -⟩; omega

theorem exists_readFrom_iff {second : Matcher} {minute hour day month week : List Char} :
    (∃ p, readFrom second minute hour day month week = .ok p) ↔
      Field.Admits .minute minute ∧ Field.Admits .hour hour ∧ Field.Admits .dayOfMonth day ∧
        Field.Admits .month month ∧ Field.Admits .dayOfWeek week := by
  simp only [readFrom_eq_ok_iff, ← Matcher.exists_read_iff]
  constructor
  · rintro ⟨p, -, h1, h2, h3, h4, h5⟩
    exact ⟨⟨_, h1⟩, ⟨_, h2⟩, ⟨_, h3⟩, ⟨_, h4⟩, ⟨_, h5⟩⟩
  · rintro ⟨⟨x1, h1⟩, ⟨x2, h2⟩, ⟨x3, h3⟩, ⟨x4, h4⟩, ⟨x5, h5⟩⟩
    exact ⟨⟨second, x1, x2, x3, x4, x5⟩, rfl, h1, h2, h3, h4, h5⟩

theorem exists_ofTokens_iff {piece : List Char} (tokens : List (List Char)) :
    (∃ p, ofTokens piece tokens = .ok p) ↔
      (tokens.length = 5 ∨ tokens.length = 6 ∨ tokens.length = 7) ∧
        ∀ c ∈ fieldTokens tokens, c.1.Admits c.2 := by
  constructor
  · rintro ⟨p, hp⟩
    obtain ⟨hlen, -, hread⟩ := (ofTokens_eq_ok_iff tokens).1 hp
    exact ⟨hlen, fun c hc => Matcher.exists_read_iff.1 ⟨_, hread c hc⟩⟩
  · rintro ⟨hlen, hadm⟩
    -- The matchers of the tokens are put together shape by shape.
    match tokens with
    | [_, _, _, _, _] =>
      simp only [fieldTokens, Field.all] at hadm
      simpa [ofTokens, exists_readFrom_iff] using hadm
    | [s, _, _, _, _, _] | [s, _, _, _, _, _, _] =>
      simp only [fieldTokens, Field.all] at hadm
      obtain ⟨hs, hadm⟩ : Field.Admits .second s ∧ _ := by simpa using hadm
      obtain ⟨x, hx⟩ := Matcher.exists_read_iff.2 hs
      obtain ⟨p, hp⟩ : ∃ p, readFrom x _ _ _ _ _ = .ok p := exists_readFrom_iff.2 hadm
      exact ⟨p, bind_eq_ok_iff.2 ⟨x, hx, hp⟩⟩

theorem exists_read_iff {piece : List Char} : (∃ p, read piece = .ok p) ↔ PieceReadable piece :=
  exists_ofTokens_iff (words piece)

/-- A sub-pattern that was read accepts the moments that its piece allows. -/
theorem accepts_of_read {piece : List Char} {p : SubPattern} (h : read piece = .ok p) (m : Moment)
    (matchSecond : Bool) : p.accepts m matchSecond = true ↔ PieceAllows piece m matchSecond := by
  obtain ⟨hlen, hfree, hread⟩ := (ofTokens_eq_ok_iff (words piece)).1 h
  rw [accepts_iff]
  constructor
  · intro ha c hc
    exact (ha c.1).imp id (Matcher.acceptsIn_of_read (hread c hc) m).1
  · intro ha f
    rcases exists_fieldToken hlen f with ⟨token, hc⟩ | ⟨h5, rfl⟩
    · exact (ha _ hc).imp id (Matcher.acceptsIn_of_read (hread _ hc) m).2
    · exact Or.inr (by simp [matcher, hfree h5, Matcher.acceptsIn, Matcher.accepts])

end SubPattern

/-! ## Reading all pieces -/

section

variable {α β : Type} {R : α → β → Prop} {l : List α} {m : List β} {a : α} {b : β}

theorem exists_forall₂_iff : (∃ m, List.Forall₂ R l m) ↔ ∀ a ∈ l, ∃ b, R a b := by
  induction l with
  | nil => simp
  | cons a l ih =>
    rw [List.forall_mem_cons, ← ih]
    constructor
    · rintro ⟨_, h⟩
      cases h with
      | cons ha hl => exact ⟨⟨_, ha⟩, ⟨_, hl⟩⟩
    · rintro ⟨⟨b, ha⟩, ⟨m, hl⟩⟩
      exact ⟨b :: m, .cons ha hl⟩

theorem exists_right_of_forall₂ (h : List.Forall₂ R l m) (ha : a ∈ l) : ∃ b ∈ m, R a b := by
  induction h with
  | nil => cases ha
  | cons hab _ ih =>
    rcases List.mem_cons.1 ha with rfl | ha
    · exact ⟨_, List.mem_cons_self, hab⟩
    · obtain ⟨b, hb, hab⟩ := ih ha
      exact ⟨b, List.mem_cons_of_mem _ hb, hab⟩

theorem exists_left_of_forall₂ (h : List.Forall₂ R l m) (hb : b ∈ m) : ∃ a ∈ l, R a b :=
  exists_right_of_forall₂ h.flip hb

end

namespace SubPattern

theorem readAll_eq_ok_iff {pieces : List (List Char)} {ps : List SubPattern} :
    readAll pieces = .ok ps ↔ List.Forall₂ (fun piece p => read piece = .ok p) pieces ps := by
  induction pieces generalizing ps with
  | nil => simp [readAll, eq_comm]
  | cons piece rest ih =>
    simp only [readAll, bind_eq_ok_iff, List.forall₂_cons_left_iff, ih]
    constructor
    · rintro ⟨p, hp, others, ho, h⟩
      cases h
      exact ⟨p, others, hp, ho, rfl⟩
    · rintro ⟨p, others, hp, ho, rfl⟩
      exact ⟨p, hp, others, ho, rfl⟩

theorem exists_readAll_iff {pieces : List (List Char)} :
    (∃ ps, readAll pieces = .ok ps) ↔ ∀ piece ∈ pieces, PieceReadable piece := by
  simp only [readAll_eq_ok_iff, exists_forall₂_iff, exists_read_iff]

/-- One of the sub-patterns that were read accepts the moments that one of the pieces allows. -/
theorem exists_accepts_of_readAll {pieces : List (List Char)} {ps : List SubPattern}
    (h : List.Forall₂ (fun piece p => read piece = .ok p) pieces ps) (m : Moment)
    (matchSecond : Bool) :
    (∃ p ∈ ps, p.accepts m matchSecond = true) ↔
      ∃ piece ∈ pieces, PieceAllows piece m matchSecond := by
  induction h with
  | nil => simp
  | cons hp _ ih => simp [accepts_of_read hp, ih]

end SubPattern

/-! ## Reading a text -/

/-- A text of blanks is one piece, and that piece cannot be read. -/
theorem trim_ne_nil_of_readable {s : List Char}
    (h : ∀ piece ∈ piecesAt '|' s, PieceReadable piece) : trim s ≠ [] := by
  intro hs
  have hb := trim_eq_nil_iff.1 hs
  have hlen := (h s (by rw [piecesAt_of_blank (by decide) hb]; exact List.mem_singleton_self s)).1
  rw [words_eq_nil_iff.2 hb] at hlen
  simp at hlen

namespace Pattern

theorem parse_eq_ok_iff {text : String} {p : Pattern} :
    parse text = .ok p ↔
      trim text.toList ≠ [] ∧ p.text = String.ofList (trim text.toList) ∧
        List.Forall₂ (fun piece a => SubPattern.read piece = .ok a) (piecesAt '|' text.toList)
          p.alternatives := by
  rw [← SubPattern.readAll_eq_ok_iff, parse, read]
  by_cases hb : trim text.toList = []
  · simp [hb]
  · obtain ⟨t, as⟩ := p
    cases SubPattern.readAll (piecesAt '|' text.toList) <;> simp [hb, eq_comm]

/-- **A pattern means what the pieces of its text mean.**  A text is a pattern exactly when each of
its pieces has five, six or seven tokens that can be read in their fields, and the pattern then
accepts exactly the moments that one of the pieces allows. -/
theorem parse_readable_and_accepts (text : String) :
    ((∃ p, parse text = .ok p) ↔ ∀ piece ∈ text.toList.splitOn '|', PieceReadable piece) ∧
      ∀ p, parse text = .ok p → ∀ (m : Moment) (matchSecond : Bool),
        p.accepts m matchSecond = true ↔
          ∃ piece ∈ text.toList.splitOn '|', PieceAllows piece m matchSecond := by
  rw [← piecesAt_eq_splitOn]
  constructor
  · constructor
    · rintro ⟨p, hp⟩
      obtain ⟨-, -, hall⟩ := parse_eq_ok_iff.1 hp
      exact SubPattern.exists_readAll_iff.1 ⟨_, SubPattern.readAll_eq_ok_iff.2 hall⟩
    · intro h
      obtain ⟨as, has⟩ := SubPattern.exists_readAll_iff.2 h
      exact ⟨⟨_, as⟩, parse_eq_ok_iff.2
        ⟨trim_ne_nil_of_readable h, rfl, SubPattern.readAll_eq_ok_iff.1 has⟩⟩
  · intro p hp m matchSecond
    obtain ⟨-, -, hall⟩ := parse_eq_ok_iff.1 hp
    rw [accepts, List.any_eq_true]
    exact SubPattern.exists_accepts_of_readAll hall m matchSecond

/-- The last day of a leap year's February is allowed by its piece, and the day before by none. -/
theorem readable_and_accepts_in_february :
    ∃ p, parse "0 12 L 2 *|30 0 9 1,L * ? 2099" = .ok p ∧
      (∃ piece ∈ "0 12 L 2 *|30 0 9 1,L * ? 2099".toList.splitOn '|',
        PieceAllows piece ⟨5, 0, 12, 29, 2, 4, 2024, true⟩ true) ∧
      ¬ ∃ piece ∈ "0 12 L 2 *|30 0 9 1,L * ? 2099".toList.splitOn '|',
        PieceAllows piece ⟨5, 0, 12, 28, 2, 3, 2024, true⟩ true := by
  refine ⟨_, rfl, ((parse_readable_and_accepts _).2 _ rfl _ _).1 rfl, fun h => ?_⟩
  have := ((parse_readable_and_accepts _).2 _ rfl _ _).2 h
  cases this

end Pattern

end Crontab
