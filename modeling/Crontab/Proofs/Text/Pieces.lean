import Crontab.Text.Split
import Crontab.Proofs.Text.Trim

/-!
# Pieces and words

What cutting a text at separators gives, told without the recursion that does it:

* `pieces_eq_splitOnP`, `piecesAt_eq_splitOn` — pieces are what the list library's split gives.
* `piecesAt_append_cons` — a separator between two texts parts their pieces.
* `pieces_append`, `piecesAt_append_append` and `piecesAt_append_of_not_mem` — the pieces of texts put together without a separator.
* `cut_append_cons` — what stands before and after the first separator.
* `piecesAt_intercalate`, `piecesAt_intercalate_eq_flatMap` — texts without the separator, joined by
  it, are the pieces, and other texts give their pieces one after another.
* `mem_words`, `words_eq_nil_iff` — a word is a non-empty piece between blanks, and only a text of
  blanks has none.
* `words_append_append` — a text between blanks is a word between the others.
* `words_flatMap` — texts without blanks, kept apart by blanks, are the words.
* `map_words_piecesAt_trim` — the words of the pieces are those of the trimmed text's pieces.
-/

set_option autoImplicit false

namespace Crontab.Text

variable {p : Char → Bool} {s : List Char}

/-! ## Pieces -/

theorem pieces_eq_splitOnP (p : Char → Bool) (s : List Char) : pieces p s = s.splitOnP p := by
  induction s with
  | nil => rfl
  | cons c r ih =>
    rw [List.splitOnP_cons_eq_if_modifyHead, ← ih, pieces]
    split
    · rfl
    · split
      · rename_i h; exact absurd h (pieces_ne_nil p r)
      · rename_i h; rw [h]; rfl

/-- Cutting at one separator is the list library's split. -/
theorem piecesAt_eq_splitOn (sep : Char) (s : List Char) : piecesAt sep s = s.splitOn sep := by
  rw [piecesAt, pieces_eq_splitOnP, List.splitOn_eq_splitOnP]

theorem pieces_of_all_not (h : ∀ c ∈ s, p c = false) : pieces p s = [s] := by
  rw [pieces_eq_splitOnP, List.splitOnP_eq_singleton h]

/-- A text without the separator is its only piece. -/
theorem piecesAt_of_not_mem {sep : Char} (h : sep ∉ s) : piecesAt sep s = [s] := by
  refine pieces_of_all_not fun c hc => ?_
  have : c ≠ sep := fun e => h (e ▸ hc)
  simp [this]

theorem pieces_append_cons {c : Char} (hc : p c = true) (s t : List Char) :
    pieces p (s ++ c :: t) = pieces p s ++ pieces p t := by
  rw [pieces_eq_splitOnP, pieces_eq_splitOnP, pieces_eq_splitOnP, List.splitOnP_append_cons s t hc]

/-- The pieces of two texts with a separator between are those of the one and then of the other. -/
theorem piecesAt_append_cons (sep : Char) (s t : List Char) :
    piecesAt sep (s ++ sep :: t) = piecesAt sep s ++ piecesAt sep t :=
  pieces_append_cons (by simp) s t

/-- The last piece of a text and the first one of the next are one piece of both together. -/
theorem pieces_append (p : Char → Bool) (s t : List Char) :
    pieces p (s ++ t) = (pieces p s).dropLast ++
      ((pieces p s).getLastD [] ++ (pieces p t).headD []) :: (pieces p t).tail := by
  induction s with
  | nil =>
    obtain ⟨w, ws, ht⟩ := List.exists_cons_of_ne_nil (pieces_ne_nil p t)
    rw [List.nil_append, ht]
    rfl
  | cons c s ih =>
    obtain ⟨w, ws, hs⟩ := List.exists_cons_of_ne_nil (pieces_ne_nil p s)
    rw [List.cons_append, pieces, pieces, ih, hs]
    split
    · rfl
    · cases ws <;> rfl

/-- A text without separators between two others joins the piece before it and the one after. -/
theorem piecesAt_append_append {sep : Char} {w : List Char} (h : sep ∉ w) (s t : List Char) :
    piecesAt sep (s ++ w ++ t) = (piecesAt sep s).dropLast ++
      ((piecesAt sep s).getLastD [] ++ w ++ (piecesAt sep t).headD []) ::
        (piecesAt sep t).tail := by
  have hw : pieces (· == sep) w = [w] := piecesAt_of_not_mem h
  rw [piecesAt, List.append_assoc, pieces_append, pieces_append _ w, hw, List.append_assoc]
  rfl

/-- A text without separators in front of another joins its first piece. -/
theorem piecesAt_append_of_not_mem {sep : Char} {w : List Char} (h : sep ∉ w) (s : List Char) :
    piecesAt sep (w ++ s) = (w ++ (piecesAt sep s).headD []) :: (piecesAt sep s).tail :=
  piecesAt_append_append h [] s

theorem piecesAt_intercalate {sep : Char} {ws : List (List Char)} (h : ∀ w ∈ ws, sep ∉ w)
    (hne : ws ≠ []) : piecesAt sep ([sep].intercalate ws) = ws := by
  rw [piecesAt_eq_splitOn, List.splitOn_intercalate sep h hne]

/-- Texts joined by the separator have the pieces of the one, then of the next. -/
theorem piecesAt_intercalate_eq_flatMap {sep : Char} {ws : List (List Char)} (hne : ws ≠ []) :
    piecesAt sep ([sep].intercalate ws) = ws.flatMap (piecesAt sep) := by
  induction ws with
  | nil => exact absurd rfl hne
  | cons w ws ih =>
    cases ws with
    | nil => simp [List.intercalate]
    | cons v ws =>
      have h : [sep].intercalate (w :: v :: ws) = w ++ sep :: [sep].intercalate (v :: ws) := rfl
      rw [h, piecesAt_append_cons, ih (List.cons_ne_nil _ _)]
      rfl

/-- A text is cut at its first separator. -/
theorem cut_append_cons {sep : Char} {a : List Char} (h : sep ∉ a) (b : List Char) :
    cut sep (a ++ sep :: b) = some (a, b) := by
  induction a with
  | nil => exact if_pos rfl
  | cons c a ih =>
    have hc : c ≠ sep := fun e => h (e ▸ List.mem_cons_self)
    rw [List.cons_append, cut, if_neg hc, ih fun ha => h (List.mem_cons_of_mem _ ha)]
    rfl

theorem mem_intercalate {sep : Char} {ws : List (List Char)} {c : Char}
    (h : c ∈ [sep].intercalate ws) : c = sep ∨ ∃ w ∈ ws, c ∈ w := by
  rw [List.intercalate, List.mem_flatten] at h
  obtain ⟨w, hw, hcw⟩ := h
  induction ws with
  | nil => cases hw
  | cons v vs ih =>
    cases vs with
    | nil => exact .inr ⟨w, hw, hcw⟩
    | cons u us =>
      rw [List.intersperse_cons_cons, List.mem_cons, List.mem_cons] at hw
      rcases hw with rfl | rfl | hw
      · exact .inr ⟨w, List.mem_cons_self, hcw⟩
      · exact .inl (List.mem_singleton.1 hcw)
      · exact (ih hw).imp id fun ⟨x, hx, hcx⟩ => ⟨x, List.mem_cons_of_mem _ hx, hcx⟩

/-- No piece holds a separator, and what a piece holds the text holds. -/
theorem mem_of_mem_pieces {w : List Char} (hw : w ∈ pieces p s) {c : Char} (hc : c ∈ w) :
    c ∈ s ∧ p c = false := by
  induction s generalizing w with
  | nil =>
    simp only [pieces, List.mem_singleton] at hw
    subst hw; cases hc
  | cons d r ih =>
    unfold pieces at hw
    split at hw
    · rcases List.mem_cons.mp hw with rfl | hw
      · cases hc
      · obtain ⟨hr, hp⟩ := ih hw hc
        exact ⟨List.mem_cons_of_mem _ hr, hp⟩
    · rename_i hd
      split at hw
      · rename_i h; exact absurd h (pieces_ne_nil p r)
      · rename_i v vs h
        -- The first piece grew by `d`; the others are pieces of the rest.
        rcases List.mem_cons.mp hw with rfl | hw
        · rcases List.mem_cons.mp hc with rfl | hc
          · exact ⟨List.mem_cons_self, by simpa using hd⟩
          · obtain ⟨hr, hp⟩ := ih (h ▸ List.mem_cons_self) hc
            exact ⟨List.mem_cons_of_mem _ hr, hp⟩
        · obtain ⟨hr, hp⟩ := ih (h ▸ List.mem_cons_of_mem _ hw) hc
          exact ⟨List.mem_cons_of_mem _ hr, hp⟩

/-- Every character that is no separator stands in a piece. -/
theorem exists_piece_of_mem {c : Char} (hc : c ∈ s) (hp : p c = false) :
    ∃ w ∈ pieces p s, c ∈ w := by
  induction s with
  | nil => cases hc
  | cons d r ih =>
    unfold pieces
    rcases List.mem_cons.mp hc with rfl | hc
    · rw [if_neg (by simp [hp])]
      split
      · exact ⟨_, List.mem_cons_self, List.mem_cons_self⟩
      · exact ⟨_, List.mem_cons_self, List.mem_cons_self⟩
    · obtain ⟨w, hw, hcw⟩ := ih hc
      split
      · exact ⟨w, List.mem_cons_of_mem _ hw, hcw⟩
      · split
        · rename_i h; exact absurd h (pieces_ne_nil p r)
        · rename_i v vs h
          rw [h] at hw
          rcases List.mem_cons.mp hw with rfl | hw
          · exact ⟨_, List.mem_cons_self, List.mem_cons_of_mem _ hcw⟩
          · exact ⟨w, List.mem_cons_of_mem _ hw, hcw⟩

/-! ## Words -/

/-- That a text has no blanks can be computed from it. -/
theorem not_blank_of_all (h : (s.all fun c => !isBlank c) = true) : ∀ c ∈ s, isBlank c = false := by
  simpa using h

theorem mem_words {w : List Char} : w ∈ words s ↔ w ∈ pieces isBlank s ∧ w ≠ [] := by
  simp [words]

theorem not_blank_of_mem_words {w : List Char} (hw : w ∈ words s) : ∀ c ∈ w, isBlank c = false :=
  fun _ hc => (mem_of_mem_pieces (mem_words.1 hw).1 hc).2

/-- Only a text of blanks has no words. -/
theorem words_eq_nil_iff : words s = [] ↔ ∀ c ∈ s, isBlank c = true := by
  rw [List.eq_nil_iff_forall_not_mem]
  constructor
  · intro h c hc
    by_contra hb
    obtain ⟨w, hw, hcw⟩ := exists_piece_of_mem hc (Bool.eq_false_iff.2 hb)
    exact h w (mem_words.2 ⟨hw, List.ne_nil_of_mem hcw⟩)
  · intro h w hw
    obtain ⟨hp, hne⟩ := mem_words.1 hw
    obtain ⟨c, hc⟩ := List.exists_mem_of_ne_nil w hne
    obtain ⟨hs, hb⟩ := mem_of_mem_pieces hp hc
    rw [h c hs] at hb; cases hb

theorem words_of_not_blank (hne : s ≠ []) (h : ∀ c ∈ s, isBlank c = false) : words s = [s] := by
  rw [words, pieces_of_all_not h]
  simpa using hne

theorem words_append_cons {c : Char} (hc : isBlank c = true) (s t : List Char) :
    words (s ++ c :: t) = words s ++ words t := by
  rw [words, pieces_append_cons hc, List.filter_append]
  rfl

theorem words_append_of_blank {g : List Char} (hg : ∀ c ∈ g, isBlank c = true) (s : List Char) :
    words (g ++ s) = words s := by
  induction g with
  | nil => rfl
  | cons c g ih =>
    obtain ⟨hc, hg⟩ := List.forall_mem_cons.1 hg
    have hcut : words (c :: (g ++ s)) = words [] ++ words (g ++ s) :=
      words_append_cons hc [] (g ++ s)
    have hnil : words [] = [] := rfl
    rw [List.cons_append, hcut, hnil, List.nil_append, ih hg]

/-- Blanks between two texts part their words. -/
theorem words_append_blank_append {g : List Char} (hne : g ≠ []) (hg : ∀ c ∈ g, isBlank c = true)
    (s t : List Char) : words (s ++ (g ++ t)) = words s ++ words t := by
  obtain ⟨c, g, rfl⟩ := List.exists_cons_of_ne_nil hne
  obtain ⟨hc, hg⟩ := List.forall_mem_cons.1 hg
  rw [List.cons_append, words_append_cons hc, words_append_of_blank hg]

theorem words_append_blank {g : List Char} (hg : ∀ c ∈ g, isBlank c = true) (s : List Char) :
    words (s ++ g) = words s := by
  have hnil : words [] = [] := rfl
  cases g with
  | nil => rw [List.append_nil]
  | cons c g =>
    rw [← List.append_nil (c :: g), words_append_blank_append (List.cons_ne_nil c g) hg, hnil,
      List.append_nil]

/-- A text without blanks that has none but blanks next to it is a word. -/
theorem words_append_append {w : List Char} (hne : w ≠ []) (hw : ∀ c ∈ w, isBlank c = false)
    {s t : List Char} (hs : ∀ c ∈ s.getLast?, isBlank c = true)
    (ht : ∀ c ∈ t.head?, isBlank c = true) : words (s ++ w ++ t) = words s ++ w :: words t := by
  have hbefore : words (s ++ w) = words s ++ [w] := by
    rcases List.eq_nil_or_concat s with rfl | ⟨s, c, rfl⟩
    · exact words_of_not_blank hne hw
    · have hc : isBlank c = true := hs c (by simp)
      have hnil : words [] = [] := rfl
      rw [List.concat_eq_append, List.append_assoc, List.singleton_append, words_append_cons hc,
        words_append_cons hc, hnil, words_of_not_blank hne hw, List.append_nil]
  cases t with
  | nil => rw [List.append_nil, hbefore]; rfl
  | cons c t =>
    have hc : isBlank c = true := ht c rfl
    have hskip : words (c :: t) = words t := words_append_cons hc [] t
    rw [words_append_cons hc, hbefore, hskip, List.append_assoc]
    rfl

/-- Texts without blanks, each but the first with blanks in front of it, are the words. -/
theorem words_flatMap {α : Type} {l : List α} {gap word : α → List Char}
    (hword : ∀ x ∈ l, word x ≠ [] ∧ ∀ c ∈ word x, isBlank c = false)
    (hgap : ∀ x ∈ l, ∀ c ∈ gap x, isBlank c = true) (hne : ∀ x ∈ l.tail, gap x ≠ []) :
    words (l.flatMap fun x => gap x ++ word x) = l.map word := by
  induction l with
  | nil => exact words_eq_nil_iff.2 (by simp)
  | cons x l ih =>
    obtain ⟨⟨hwne, hwx⟩, hword⟩ := List.forall_mem_cons.1 hword
    obtain ⟨hgx, hgap⟩ := List.forall_mem_cons.1 hgap
    have hx := words_of_not_blank hwne hwx
    rw [List.flatMap_cons, List.append_assoc, words_append_of_blank hgx]
    cases l with
    | nil => simpa using hx
    | cons y l =>
      have hy : gap y ≠ [] := hne y List.mem_cons_self
      have hgy := hgap y List.mem_cons_self
      have hrest := ih hword hgap fun z hz => hne z (List.mem_cons_of_mem _ hz)
      -- The gap in front of the next word ends this one.
      rw [List.flatMap_cons, List.append_assoc, words_append_of_blank hgy] at hrest
      rw [List.flatMap_cons, List.append_assoc, words_append_blank_append hy hgy, hx, hrest]
      rfl

/-! ## Blanks at the ends -/

section

variable {sep : Char} (hsep : isBlank sep = false)

include hsep

/-- A text of blanks has no separator that is no blank. -/
theorem piecesAt_of_blank (h : ∀ c ∈ s, isBlank c = true) : piecesAt sep s = [s] := by
  refine piecesAt_of_not_mem fun hs => ?_
  rw [h sep hs] at hsep; cases hsep

theorem map_words_piecesAt_append_of_blank {g : List Char} (hg : ∀ c ∈ g, isBlank c = true)
    (s : List Char) : (piecesAt sep (g ++ s)).map words = (piecesAt sep s).map words := by
  obtain ⟨w, ws, hs⟩ := List.exists_cons_of_ne_nil (pieces_ne_nil (· == sep) s)
  have hone : pieces (· == sep) g = [g] := piecesAt_of_blank hsep hg
  have hjoin : piecesAt sep (g ++ s) = (g ++ w) :: ws := by
    rw [piecesAt, pieces_append, hone, hs]
    rfl
  rw [hjoin, piecesAt, hs, List.map_cons, List.map_cons, words_append_of_blank hg]

theorem map_words_piecesAt_append_blank {g : List Char} (hg : ∀ c ∈ g, isBlank c = true)
    (s : List Char) : (piecesAt sep (s ++ g)).map words = (piecesAt sep s).map words := by
  obtain ⟨ws, w, hs⟩ :=
    (List.eq_nil_or_concat (pieces (· == sep) s)).resolve_left (pieces_ne_nil _ s)
  have hone : pieces (· == sep) g = [g] := piecesAt_of_blank hsep hg
  have hjoin : piecesAt sep (s ++ g) = ws ++ [w ++ g] := by
    rw [piecesAt, pieces_append, hone, hs, List.concat_eq_append, List.dropLast_concat,
      List.getLastD_concat]
    rfl
  rw [hjoin, piecesAt, hs, List.concat_eq_append, List.map_append, List.map_append,
    List.map_singleton, List.map_singleton, words_append_blank hg]

/-- Blanks at the ends of a text are in none of its words. -/
theorem map_words_piecesAt_trim (s : List Char) :
    (piecesAt sep (trim s)).map words = (piecesAt sep s).map words := by
  obtain ⟨g, h, hs, hg, hh⟩ := (trimmed_trim s).between
  calc (piecesAt sep (trim s)).map words
    _ = (piecesAt sep (g ++ trim s)).map words :=
      (map_words_piecesAt_append_of_blank hsep hg _).symm
    _ = (piecesAt sep (g ++ trim s ++ h)).map words :=
      (map_words_piecesAt_append_blank hsep hh _).symm
    _ = (piecesAt sep s).map words := by rw [← hs]

end

end Crontab.Text
