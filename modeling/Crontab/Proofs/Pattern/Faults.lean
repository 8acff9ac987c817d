import Crontab.Proofs.Field.Faults
import Crontab.Proofs.Pattern.Alternation

/-!
# Refusals of patterns

A text that is no pattern is refused for its leftmost fault, and the refusal quotes the text as it
was given.  The leftmost fault is that of the first piece that cannot be read; in the piece the
number of its tokens comes first, and then the fields in their order.

* `PieceFault`, `TextFault` — the faults of pieces and of texts.
* `SubPattern.refusedWith_ofTokens_iff`, `SubPattern.refusedWith_readAll_iff` — the refusals of
  pieces.
* `refusedWith_read_iff` — the refusals of texts.
* `refusal_names_first_fault` — a refusal names the leftmost fault, whatever comes after it.
-/

set_option autoImplicit false

namespace Crontab

open Text

/-- The fault of a piece that cannot be read: the number of its tokens, or that of the first token
that cannot be read in its field. -/
inductive PieceFault (piece : List Char) : String → Prop where
  | fieldCount
    (h : ¬ ((words piece).length = 5 ∨ (words piece).length = 6 ∨ (words piece).length = 7)) :
    PieceFault piece ("sub-pattern '" ++ String.ofList (trim piece) ++ "' has " ++
      toString (words piece).length ++ " fields, expected 5, 6 or 7")
  | field {reason : String}
    (hlen : (words piece).length = 5 ∨ (words piece).length = 6 ∨ (words piece).length = 7)
    (h : FirstFault (fun c => c.1.Admits c.2) (fun c => c.1.TokenFault c.2)
      (fieldTokens (words piece)) reason) : PieceFault piece reason

/-- The fault of a text that is no pattern: that it is blank, or that of the first piece that cannot
be read. -/
inductive TextFault (s : List Char) : String → Prop where
  | blank (h : ∀ c ∈ s, isBlank c = true) : TextFault s "pattern is empty"
  | piece {reason : String} (hs : ∃ c ∈ s, isBlank c = false)
    (h : FirstFault PieceReadable PieceFault (s.splitOn '|') reason) : TextFault s reason

variable {reason : String}

/-! ## Pieces -/

namespace SubPattern

/-- Five tokens are refused for the first one that cannot be read in its field. -/
theorem refusedWith_readFrom_iff {second : Matcher} {minute hour day month week : List Char}
    (h : ∀ t ∈ [minute, hour, day, month, week], ∀ c ∈ t, isBlank c = false) :
    RefusedWith PatternDefect.reason (readFrom second minute hour day month week) reason ↔
      FirstFault (fun c => c.1.Admits c.2) (fun c => c.1.TokenFault c.2)
        (Field.all.tail.zip [minute, hour, day, month, week]) reason := by
  simp only [List.forall_mem_cons] at h
  obtain ⟨hminute, hhour, hday, hmonth, hweek, -⟩ := h
  simp only [Field.all, List.tail_cons, List.zip_cons_cons, List.zip_nil_left, firstFault_cons,
    not_firstFault_nil, and_false, or_false, readFrom]
  rw [refusedWith_bind_iff, Matcher.refusedWith_read_iff hminute]
  simp only [refusedWith_bind_iff, Matcher.refusedWith_read_iff hhour,
    Matcher.refusedWith_read_iff hday, Matcher.refusedWith_read_iff hmonth,
    Matcher.refusedWith_read_iff hweek, not_refusedWith_pure, and_false, exists_false, or_false,
    exists_and_right, Matcher.exists_read_iff]

theorem reason_fieldCount (piece : String) (n : Nat) :
    (PatternDefect.fieldCount piece n).reason =
      "sub-pattern '" ++ piece ++ "' has " ++ toString n ++ " fields, expected 5, 6 or 7" := rfl

theorem refusedWith_ofTokens_iff {piece : List Char} (tokens : List (List Char))
    (h : ∀ t ∈ tokens, ∀ c ∈ t, isBlank c = false) :
    RefusedWith PatternDefect.reason (ofTokens piece tokens) reason ↔
      (¬ (tokens.length = 5 ∨ tokens.length = 6 ∨ tokens.length = 7) ∧
        reason = "sub-pattern '" ++ String.ofList piece ++ "' has " ++ toString tokens.length ++
          " fields, expected 5, 6 or 7") ∨
      ((tokens.length = 5 ∨ tokens.length = 6 ∨ tokens.length = 7) ∧
        FirstFault (fun c => c.1.Admits c.2) (fun c => c.1.TokenFault c.2) (fieldTokens tokens)
          reason) := by
  match tokens with
  | [] | [_] | [_, _] | [_, _, _] | [_, _, _, _] =>
    simp [ofTokens, reason_fieldCount, eq_comm]
  | [_, _, _, _, _] => simp [ofTokens, fieldTokens, refusedWith_readFrom_iff h]
  | [s, minute, hour, day, month, week] =>
    obtain ⟨hs, hfive⟩ := List.forall_mem_cons.1 h
    simp only [ofTokens, refusedWith_bind_iff, Matcher.refusedWith_read_iff hs,
      refusedWith_readFrom_iff hfive, exists_and_right, Matcher.exists_read_iff]
    simp [fieldTokens, Field.all, firstFault_cons]
  | [s, minute, hour, day, month, week, year] =>
    obtain ⟨hs, hrest⟩ := List.forall_mem_cons.1 h
    have hfive : ∀ t ∈ [minute, hour, day, month, week], ∀ c ∈ t, isBlank c = false :=
      fun t ht => hrest t (List.mem_append_left [year] ht)
    simp only [ofTokens, refusedWith_bind_iff, Matcher.refusedWith_read_iff hs,
      refusedWith_readFrom_iff hfive, exists_and_right, Matcher.exists_read_iff]
    simp [fieldTokens, Field.all, firstFault_cons]
  | _ :: _ :: _ :: _ :: _ :: _ :: _ :: _ :: rest =>
    have hlen : ¬ (rest.length + 8 = 5 ∨ rest.length + 8 = 6 ∨ rest.length + 8 = 7) := by omega
    simp only [ofTokens, refusedWith_error_iff, reason_fieldCount, List.length_cons, hlen]
    simp [eq_comm]

theorem refusedWith_read_iff {piece : List Char} :
    RefusedWith PatternDefect.reason (read piece) reason ↔ PieceFault piece reason := by
  rw [read, refusedWith_ofTokens_iff (words piece) fun t ht => not_blank_of_mem_words ht]
  constructor
  · rintro (⟨hlen, rfl⟩ | ⟨hlen, h⟩)
    · exact .fieldCount hlen
    · exact .field hlen h
  · rintro (hlen | ⟨hlen, h⟩)
    · exact .inl ⟨hlen, rfl⟩
    · exact .inr ⟨hlen, h⟩

theorem refusedWith_readAll_iff {pieces : List (List Char)} :
    RefusedWith PatternDefect.reason (readAll pieces) reason ↔
      FirstFault PieceReadable PieceFault pieces reason := by
  induction pieces with
  | nil => exact iff_of_false not_refusedWith_ok not_firstFault_nil
  | cons piece pieces ih =>
    rw [readAll, refusedWith_bind_iff, firstFault_cons, refusedWith_read_iff, ← ih]
    simp only [refusedWith_bind_pure_iff, exists_and_right, exists_read_iff]

end SubPattern

/-! ## Texts -/

namespace Pattern

theorem refusedWith_read_iff {s : List Char} :
    RefusedWith PatternDefect.reason (read s) reason ↔ TextFault s reason := by
  unfold read
  by_cases hblank : trim s = []
  · have hall := trim_eq_nil_iff.1 hblank
    rw [if_pos hblank, refusedWith_error_iff]
    constructor
    · rintro rfl
      exact .blank hall
    · rintro (_ | ⟨⟨c, hc, hcs⟩, -⟩)
      · rfl
      · rw [hall c hc] at hcs
        cases hcs
  · have hsome : ∃ c ∈ s, isBlank c = false := by
      rw [trim_eq_nil_iff] at hblank
      push Not at hblank
      simpa using hblank
    have hread : RefusedWith PatternDefect.reason (SubPattern.readAll (piecesAt '|' s)) reason ↔
        TextFault s reason := by
      rw [SubPattern.refusedWith_readAll_iff, piecesAt_eq_splitOn]
      constructor
      · exact .piece hsome
      · rintro (hall | ⟨-, h⟩)
        · exact absurd (trim_eq_nil_iff.2 hall) hblank
        · exact h
    rw [if_neg hblank, ← hread]
    cases SubPattern.readAll (piecesAt '|' s) <;> simp

/-- A refusal quotes the text and names a fault of it. -/
theorem parse_eq_error_iff {text t : String} :
    (∃ e, parse text = .error e ∧ e.text = t ∧ e.defect.reason = reason) ↔
      t = text ∧ TextFault text.toList reason := by
  rw [← refusedWith_read_iff]
  unfold parse
  cases read text.toList with
  | error e => simp [eq_comm]
  | ok p => simp

/-- Nothing that is written after another bar changes the fault of a text that is not blank. -/
theorem textFault_append_bar {text : String} (hs : ∃ c ∈ text.toList, isBlank c = false)
    (h : TextFault text.toList reason) (later : String) :
    TextFault (text ++ "|" ++ later).toList reason := by
  cases h with
  | blank hall =>
    obtain ⟨c, hc, hcs⟩ := hs
    rw [hall c hc] at hcs
    cases hcs
  | piece _ h =>
    refine .piece ?_ ?_
    · obtain ⟨c, hc, hcs⟩ := hs
      exact ⟨c, by simp [hc], hcs⟩
    · rw [← piecesAt_eq_splitOn, piecesAt_append_bar]
      rw [← piecesAt_eq_splitOn] at h
      exact firstFault_append h _

/-- **A refusal names the leftmost fault.**  A text is refused exactly if it has a fault.  The
refusal quotes the text as it was given and names its fault, of which there is only one: a blank
text has that of being blank, and any other text that of its first piece which is no pattern on its
own.  Such a piece has the wrong number of tokens, or its first token that cannot be read in its
field has a first item with a fault.  Nothing that comes after this place makes a difference, be it
another bar and what stands behind it. -/
theorem refusal_names_first_fault (text : String) :
    ((∃ e, parse text = .error e) ↔ ∃ reason, TextFault text.toList reason) ∧
    ∀ e, parse text = .error e →
      e.text = text ∧ (∀ reason, TextFault text.toList reason ↔ reason = e.defect.reason) ∧
      ∀ later, (∃ c ∈ text.toList, isBlank c = false) →
        ∃ e', parse (text ++ "|" ++ later) = .error e' ∧ e'.text = text ++ "|" ++ later ∧
          e'.defect.reason = e.defect.reason := by
  refine ⟨⟨?_, ?_⟩, fun e he => ?_⟩
  · rintro ⟨e, he⟩
    exact ⟨_, (parse_eq_error_iff.1 ⟨e, he, rfl, rfl⟩).2⟩
  · rintro ⟨reason, h⟩
    obtain ⟨e, he, -⟩ := parse_eq_error_iff.2 ⟨rfl, h⟩
    exact ⟨e, he⟩
  · obtain ⟨htext, hfault⟩ := parse_eq_error_iff.1 ⟨e, he, rfl, rfl⟩
    refine ⟨htext, fun reason => ⟨fun h => ?_, ?_⟩, fun later hs => ?_⟩
    · obtain ⟨e', he', -, rfl⟩ := parse_eq_error_iff.2 ⟨rfl, h⟩
      rw [Except.error.inj (he'.symm.trans he)]
    · rintro rfl
      exact hfault
    · exact parse_eq_error_iff.2 ⟨rfl, textFault_append_bar hs hfault later⟩

/-- Of a bad step, a bad value, a range in the wrong order and an unknown name the step is named, and
a piece of three tokens behind them changes nothing. -/
theorem refusal_names_first_fault_of_many :
    ∃ e, parse "\t* * * * *|5,61/0 8-3 * * someday" = .error e ∧
      e.text = "\t* * * * *|5,61/0 8-3 * * someday" ∧
      (∀ reason, TextFault "\t* * * * *|5,61/0 8-3 * * someday".toList reason ↔
        reason = "minute field: step must be greater than zero") ∧
      ∃ e', parse ("\t* * * * *|5,61/0 8-3 * * someday" ++ "|" ++ "1 2 3") = .error e' ∧
        e'.defect.reason = "minute field: step must be greater than zero" := by
  obtain ⟨htext, hfault, hlater⟩ :=
    (refusal_names_first_fault "\t* * * * *|5,61/0 8-3 * * someday").2 _ rfl
  obtain ⟨e', he', -, hreason⟩ := hlater "1 2 3" ⟨'*', by decide, rfl⟩
  exact ⟨_, rfl, htext, hfault, e', he', hreason⟩

end Pattern

end Crontab
