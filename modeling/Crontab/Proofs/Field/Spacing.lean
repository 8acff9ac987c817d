import Crontab.Proofs.Field.Grammar
import Mathlib.Data.List.Infix

/-!
# Blanks around separators

Commas, hyphens and slashes part the text of a field.  Items, values and steps are trimmed before
they are read, so that blanks at the ends of a text and next to its separators do not matter.  There
is one exception: a wildcard is compared as it stands, and blanks between it and the slash behind it
make it a value, which it does not name.

* `Spaced` — a text with blanks put in at its ends and next to its separators.
* `WildcardApart` — blanks between a wildcard and the slash behind it; it can be computed.
* `Spaced.exists_append_cons`, `Spaced.forall₂_piecesAt` — what stands between the separators is
  spaced, too.
* `wildcardApart_iff_piece`, `wildcardApart_append_slash_iff`, `endsApart_wildcard_iff` — the
  exception is found in one item, and there in the blanks behind the wildcard.
* `ReadsUnless` — a reading with an exception; `readsUnless_readSpan`, `readsUnless_read` and
  `readsUnless_readItems` say it of spaced spans, items and lists of items.
* `Field.parse_spaced` — a spaced text is read as the text without the blanks, up to the exception.
-/

set_option autoImplicit false

namespace Crontab

open Text

/-- The characters that part the text of a field. -/
def isSeparator (c : Char) : Bool := c == ',' || c == '-' || c == '/'

/-- `Spaced s t`: in `t` there are the characters of `s` and besides these blanks, each at an end of
the text or next to a separator. -/
inductive Spaced : List Char → List Char → Prop where
  | last {s g h : List Char} (hs : ∀ c ∈ s, isSeparator c = false)
    (hg : ∀ c ∈ g, isBlank c = true) (hh : ∀ c ∈ h, isBlank c = true) :
    Spaced s (g ++ s ++ h)
  | cons {s g h s' t' : List Char} {c : Char} (hs : ∀ c ∈ s, isSeparator c = false)
    (hc : isSeparator c = true) (hg : ∀ c ∈ g, isBlank c = true)
    (hh : ∀ c ∈ h, isBlank c = true) (rest : Spaced s' t') :
    Spaced (s ++ c :: s') (g ++ s ++ h ++ c :: t')

/-- Whether a text ends with a wildcard and blanks behind it. -/
def EndsApart (s : List Char) : Prop :=
  ∃ a w g, s = a ++ w :: g ∧ (w = '*' ∨ w = '?') ∧ g ≠ [] ∧ ∀ c ∈ g, isBlank c = true

/-- Whether there are blanks between a wildcard and a slash behind it. -/
def WildcardApart (t : List Char) : Prop := ∃ a b, t = a ++ '/' :: b ∧ EndsApart a

variable {f : Field} {s t a b : List Char} {c w : Char}

theorem not_isSeparator_of_all (h : (s.all fun c => !isSeparator c) = true) :
    ∀ c ∈ s, isSeparator c = false := by
  simpa using h

theorem not_isSeparator_of_wildcard (hw : w = '*' ∨ w = '?') :
    ∀ c ∈ [w], isSeparator c = false := by
  rcases hw with rfl | rfl <;> exact not_isSeparator_of_all rfl

theorem not_mem_of_blank {g : List Char} (hg : ∀ c ∈ g, isBlank c = true)
    (hc : isBlank c = false) : c ∉ g := by
  intro hmem
  rw [hg c hmem] at hc
  cases hc

/-- If a text is cut at `c` and at `d`, and there is no `c` in front of the `d`, then both cuts are
the same one, or the `d` comes first. -/
theorem eq_or_exists_of_append_cons {α : Type} {a b s t : List α} {c d : α}
    (h : a ++ c :: b = s ++ d :: t) (hc : c ∉ s) :
    (a = s ∧ c = d ∧ b = t) ∨ ∃ x, a = s ++ d :: x ∧ t = x ++ c :: b := by
  induction s generalizing a with
  | nil =>
    cases a with
    | nil =>
      obtain ⟨rfl, rfl⟩ := List.cons.inj h
      exact .inl ⟨rfl, rfl, rfl⟩
    | cons e a =>
      obtain ⟨rfl, rfl⟩ := List.cons.inj h
      exact .inr ⟨a, rfl, rfl⟩
  | cons e s ih =>
    rw [List.mem_cons, not_or] at hc
    obtain ⟨hne, hc⟩ := hc
    cases a with
    | nil => exact absurd (List.cons.inj h).1 hne
    | cons e' a =>
      obtain ⟨rfl, htail⟩ := List.cons.inj h
      rcases ih htail hc with ⟨rfl, rfl, rfl⟩ | ⟨x, rfl, rfl⟩
      · exact .inl ⟨rfl, rfl, rfl⟩
      · exact .inr ⟨x, rfl, rfl⟩

/-! ## Spaced texts -/

namespace Spaced

/-- Only blanks are put in. -/
theorem mem_or_isBlank (h : Spaced s t) (hc : c ∈ t) : c ∈ s ∨ isBlank c = true := by
  induction h with
  | last _ hg hh =>
    rw [List.mem_append, List.mem_append] at hc
    rcases hc with (hc | hc) | hc
    · exact .inr (hg c hc)
    · exact .inl hc
    · exact .inr (hh c hc)
  | cons _ _ hg hh _ ih =>
    rw [List.mem_append, List.mem_append, List.mem_append, List.mem_cons] at hc
    rcases hc with ((hc | hc) | hc) | rfl | hc
    · exact .inr (hg c hc)
    · exact .inl (List.mem_append_left _ hc)
    · exact .inr (hh c hc)
    · exact .inl (List.mem_append_right _ List.mem_cons_self)
    · exact (ih hc).imp_left fun hc => List.mem_append_right _ (List.mem_cons_of_mem _ hc)

theorem not_mem (h : Spaced s t) (hblank : isBlank c = false) (hc : c ∉ s) : c ∉ t := by
  intro hmem
  rcases h.mem_or_isBlank hmem with hmem | hc'
  · exact hc hmem
  · rw [hc'] at hblank
    cases hblank

/-- Without separators the blanks are at the ends. -/
theorem exists_between (h : Spaced s t) (hs : ∀ c ∈ s, isSeparator c = false) :
    ∃ g e, t = g ++ s ++ e ∧ (∀ c ∈ g, isBlank c = true) ∧ ∀ c ∈ e, isBlank c = true := by
  cases h with
  | last _ hg hh => exact ⟨_, _, rfl, hg, hh⟩
  | cons _ hc _ _ _ =>
    rw [hs _ (List.mem_append_right _ List.mem_cons_self)] at hc
    cases hc

/-- So they are cut off. -/
theorem trim_eq (h : Spaced s t) (hs : ∀ c ∈ s, isSeparator c = false)
    (hblank : ∀ c ∈ s, isBlank c = false) : trim t = s := by
  obtain ⟨g, e, rfl, hg, he⟩ := h.exists_between hs
  rw [trim_between hg he, trim_of_not_blank hblank]

/-- The two sides of a separator are spaced by themselves. -/
theorem exists_append_cons (h : Spaced (a ++ c :: b) t) (hc : isSeparator c = true) :
    ∃ a' b', t = a' ++ c :: b' ∧ Spaced a a' ∧ Spaced b b' := by
  generalize hs : a ++ c :: b = s at h
  induction h generalizing a with
  | last hno _ _ =>
    rw [hno c (hs ▸ List.mem_append_right _ List.mem_cons_self)] at hc
    cases hc
  | @cons s g h s' t' d hno hd hg hh rest ih =>
    have hmem : c ∉ s := fun hmem => absurd ((hno c hmem).symm.trans hc) (by decide)
    -- The separator is the one behind the first run, or it stands further to the right.
    rcases eq_or_exists_of_append_cons hs hmem with ⟨rfl, rfl, rfl⟩ | ⟨x, rfl, rfl⟩
    · exact ⟨_, _, rfl, .last hno hg hh, rest⟩
    · obtain ⟨a', b', rfl, ha, hb⟩ := ih rfl
      exact ⟨g ++ s ++ h ++ d :: a', b', by simp, .cons hno hd hg hh ha, hb⟩

/-- The pieces between commas are spaced each by itself. -/
theorem forall₂_piecesAt (h : Spaced s t) :
    List.Forall₂ Spaced (piecesAt ',' s) (piecesAt ',' t) := by
  have hrun : ∀ {r : List Char}, (∀ c ∈ r, isSeparator c = false) → ',' ∉ r :=
    fun hr hmem => absurd (hr _ hmem) (by decide)
  induction h with
  | last hs hg hh =>
    have hspaced := last hs hg hh
    rw [piecesAt_of_not_mem (hrun hs),
      piecesAt_of_not_mem (hspaced.not_mem (by decide) (hrun hs))]
    exact .cons hspaced .nil
  | @cons s g h s' t' d hs hd hg hh rest ih =>
    have hspaced := last hs hg hh
    have hcomma := hspaced.not_mem (by decide) (hrun hs)
    by_cases heq : d = ','
    · subst heq
      rw [piecesAt_append_cons, piecesAt_append_cons, piecesAt_of_not_mem (hrun hs),
        piecesAt_of_not_mem hcomma]
      exact .cons hspaced ih
    -- Any other separator joins the run in front of it to the first piece behind it.
    · have hjoin : ∀ {r : List Char} (u : List Char), ',' ∉ r → piecesAt ',' (r ++ d :: u) =
          (r ++ d :: (piecesAt ',' u).headD []) :: (piecesAt ',' u).tail := by
        intro r u hr
        have hnot : ',' ∉ r ++ [d] := by simp [hr, Ne.symm heq]
        simpa using piecesAt_append_of_not_mem hnot u
      rw [hjoin s' (hrun hs), hjoin t' hcomma]
      obtain ⟨p, ps, hp⟩ := List.exists_cons_of_ne_nil (pieces_ne_nil (· == ',') s')
      obtain ⟨q, qs, hq⟩ := List.exists_cons_of_ne_nil (pieces_ne_nil (· == ',') t')
      rw [piecesAt, piecesAt, hp, hq] at ih ⊢
      obtain ⟨hfirst, hothers⟩ := List.forall₂_cons.1 ih
      exact .cons (.cons hs hd hg hh hfirst) hothers

end Spaced

/-! ## Wildcards apart from their slash -/

/-- Whether a text begins with a wildcard, one blank or more and a slash. -/
def WildcardApart.here : List Char → Bool
  | w :: c :: r => (w == '*' || w == '?') && isBlank c && (r.dropWhile isBlank).head? == some '/'
  | _ => false

theorem any_here_iff : t.tails.any WildcardApart.here = true ↔ WildcardApart t := by
  simp only [List.any_eq_true, List.mem_tails]
  constructor
  · rintro ⟨r, ⟨a, rfl⟩, hhere⟩
    unfold WildcardApart.here at hhere
    split at hhere
    · rename_i w c r
      simp only [Bool.and_eq_true, Bool.or_eq_true, beq_iff_eq] at hhere
      obtain ⟨⟨hw, hc⟩, hslash⟩ := hhere
      obtain ⟨b, hb⟩ := List.head?_eq_some_iff.1 hslash
      have hrest : r = r.takeWhile isBlank ++ '/' :: b := by
        rw [← hb, List.takeWhile_append_dropWhile]
      refine ⟨a ++ w :: c :: r.takeWhile isBlank, b, ?_, a, w, _, rfl, hw, List.cons_ne_nil _ _,
        List.forall_mem_cons.2 ⟨hc, fun _ => List.mem_takeWhile_imp⟩⟩
      rw [List.append_assoc, List.cons_append, List.cons_append, ← hrest]
    · cases hhere
  · rintro ⟨_, b, rfl, a, w, g, rfl, hw, hne, hg⟩
    obtain ⟨c, g, rfl⟩ := List.exists_cons_of_ne_nil hne
    obtain ⟨hc, hg⟩ := List.forall_mem_cons.1 hg
    refine ⟨w :: c :: (g ++ '/' :: b), ⟨a, by simp⟩, ?_⟩
    have hslash : ('/' :: b).dropWhile isBlank = '/' :: b := rfl
    simp [WildcardApart.here, hw, hc, List.dropWhile_append_of_pos hg, hslash]

instance (t : List Char) : Decidable (WildcardApart t) := decidable_of_iff _ any_here_iff

/-- A piece of a text stands in it in one run. -/
theorem exists_append_of_mem_piecesAt {sep : Char} (h : a ∈ piecesAt sep t) :
    ∃ x y, t = x ++ a ++ y := by
  rw [piecesAt_eq_splitOn] at h
  obtain ⟨i, hi⟩ := List.getElem?_of_mem h
  have hget : ((t.splitOn sep).intersperse [sep])[2 * i]? = some a := by
    rw [List.getElem?_intersperse_two_mul, hi]
  obtain ⟨x, y, hxy⟩ := List.infix_of_mem_flatten (List.mem_of_getElem? hget)
  exact ⟨x, y, (hxy.trans (List.intercalate_splitOn sep)).symm⟩

/-- No comma stands between a wildcard and its slash. -/
theorem wildcardApart_iff_piece :
    WildcardApart t ↔ ∃ piece ∈ piecesAt ',' t, WildcardApart piece := by
  constructor
  · rintro ⟨_, b, rfl, a, w, g, rfl, hw, hne, hg⟩
    have hcomma : ',' ∉ w :: g ++ ['/'] := by
      have hw' : ',' ≠ w := by rcases hw with rfl | rfl <;> decide
      simp [hw', not_mem_of_blank hg (c := ',') rfl]
    have hshape : a ++ w :: g ++ '/' :: b = a ++ (w :: g ++ ['/']) ++ b := by simp
    rw [hshape, piecesAt_append_append hcomma]
    exact ⟨_, List.mem_append_right _ List.mem_cons_self, (piecesAt ',' a).getLastD [] ++ w :: g,
      (piecesAt ',' b).headD [], by simp, _, w, g, rfl, hw, hne, hg⟩
  · rintro ⟨piece, hp, _, b, rfl, a, w, g, rfl, hw, hne, hg⟩
    obtain ⟨x, y, rfl⟩ := exists_append_of_mem_piecesAt hp
    exact ⟨x ++ a ++ w :: g, b ++ y, by simp, x ++ a, w, g, rfl, hw, hne, hg⟩

/-- In an item there is one slash at most. -/
theorem wildcardApart_append_slash_iff (ha : '/' ∉ a) (hb : '/' ∉ b) :
    WildcardApart (a ++ '/' :: b) ↔ EndsApart a := by
  constructor
  · rintro ⟨a', b', heq, hends⟩
    obtain ⟨rfl, -⟩ := (List.append_cons_inj_of_notMem ha hb).1 heq
    exact hends
  · exact fun hends => ⟨a, b, rfl, hends⟩

theorem not_wildcardApart (h : '/' ∉ t) : ¬ WildcardApart t := by
  rintro ⟨a, b, rfl, -⟩
  exact h (List.mem_append_right _ List.mem_cons_self)

theorem EndsApart.exists_wildcard_mem (h : EndsApart s) : ∃ w ∈ s, w = '*' ∨ w = '?' := by
  obtain ⟨a, w, g, rfl, hw, -⟩ := h
  exact ⟨w, List.mem_append_right _ List.mem_cons_self, hw⟩

/-- What stands behind a wildcard is all that can keep it apart. -/
theorem endsApart_wildcard_iff {g e : List Char} (hw : w = '*' ∨ w = '?')
    (he : ∀ c ∈ e, isBlank c = true) : EndsApart (g ++ [w] ++ e) ↔ e ≠ [] := by
  constructor
  · rintro ⟨a, v, gap, heq, -, hne, hgap⟩ rfl
    -- The last character is the wildcard, and it is a blank.
    obtain ⟨gap, d, rfl⟩ := (List.eq_nil_or_concat gap).resolve_left hne
    have hconcat : g ++ [w] = (a ++ v :: gap) ++ [d] := by simpa using heq
    obtain rfl : w = d := List.singleton_inj.1 (List.append_inj' hconcat rfl).2
    have hblank := hgap w (by simp)
    rcases hw with rfl | rfl <;> cases hblank
  · intro hne
    exact ⟨g, w, e, by simp, hw, hne, he⟩

/-! ## Readings that fail at a wildcard -/

section

variable {α : Type} {p : Prop} {x : Except FieldDefect α} {y : α}

/-- `ReadsUnless p x y`: a reading `x` gives `y`, unless `p`, when it is refused for a wildcard. -/
def ReadsUnless (p : Prop) (x : Except FieldDefect α) (y : α) : Prop :=
  (¬ p → x = .ok y) ∧
    (p → ∃ w, (w = '*' ∨ w = '?') ∧ x = .error (.unparseable (String.ofList [w])))

theorem readsUnless_of_not (hp : ¬ p) (hx : x = .ok y) : ReadsUnless p x y :=
  ⟨fun _ => hx, fun h => absurd h hp⟩

theorem ReadsUnless.map {β : Type} (h : ReadsUnless p x y) (k : α → β) :
    ReadsUnless p (x >>= fun z => return k z) (k y) := by
  constructor
  · intro hp
    rw [h.1 hp]
    rfl
  · intro hp
    obtain ⟨w, hw, hx⟩ := h.2 hp
    rw [hx]
    exact ⟨w, hw, rfl⟩

end

/-! ## Reading spaced items -/

/-- A range is read from two values, whatever blanks stand around these. -/
theorem readSpan_of_trim_range {lo hi : Nat} (hlo : f.Names (trim a) lo)
    (hhi : f.Names (trim b) hi) (h : lo ≤ hi) :
    readSpan f (a ++ '-' :: b) = .ok (.range lo hi) := by
  rw [readSpan_append_hyphen (not_mem_of_trim_names hlo rfl (by decide) rfl),
    readValue_eq_ok_iff.2 hlo, readValue_eq_ok_iff.2 hhi]
  exact if_neg (Nat.not_lt.2 h)

/-- With blanks behind it a wildcard is read as a value, which it does not name. -/
theorem readSpan_wildcard_append {e : List Char} (hw : w = '*' ∨ w = '?') (hne : e ≠ [])
    (he : ∀ c ∈ e, isBlank c = true) :
    readSpan f (w :: e) = .error (.unparseable (String.ofList [w])) := by
  have hwild : ∀ v, w :: e ≠ [v] := fun v heq => hne (List.cons.inj heq).2
  have hhyphen : '-' ∉ w :: e := by
    have hw' : '-' ≠ w := by rcases hw with rfl | rfl <;> decide
    exact List.not_mem_cons_of_ne_of_not_mem hw' (not_mem_of_blank he rfl)
  have htrim : trim (w :: e) = [w] := by
    have hone : trim [w] = [w] := by rcases hw with rfl | rfl <;> rfl
    have hblanks := trim_between (g := []) (by simp) he [w]
    rwa [hone] at hblanks
  have hvalue : readValue f (w :: e) = .error (.unparseable (String.ofList [w])) := by
    have hraw : rawValue? f [w] = none := by
      rcases hw with rfl | rfl <;> cases f <;> rfl
    unfold readValue
    rw [htrim, hraw]
  rw [readSpan_of_no_hyphen ⟨hwild _, hwild _⟩ hhyphen, hvalue]
  rfl

/-- What names a value has no separators in it. -/
theorem not_isSeparator_of_names {v : Nat} (h : f.Names s v) : ∀ c ∈ s, isSeparator c = false := by
  intro c hc
  by_contra hsep
  simp only [Bool.not_eq_false, isSeparator, Bool.or_eq_true, beq_iff_eq] at hsep
  rcases hsep with (rfl | rfl) | rfl <;> exact not_mem_of_names h rfl (by decide) hc

theorem not_isSeparator_of_isNumeral {n : Nat} (h : IsNumeral s n) :
    ∀ c ∈ s, isSeparator c = false := by
  intro c hc
  rcases isDigit_or_eq_of_mem_numeral h hc with hdigit | rfl
  · by_contra hsep
    simp only [Bool.not_eq_false, isSeparator, Bool.or_eq_true, beq_iff_eq] at hsep
    rcases hsep with (rfl | rfl) | rfl <;> cases hdigit
  · rfl

theorem exists_wildcard_of_every (h : Span.WrittenAs f .every s) :
    ∃ w, s = [w] ∧ (w = '*' ∨ w = '?') := by
  cases h with
  | star => exact ⟨'*', rfl, .inl rfl⟩
  | mark => exact ⟨'?', rfl, .inr rfl⟩

/-- Only a wildcard holds a wildcard. -/
theorem eq_every_of_wildcard_mem {span : Span} (h : span.WrittenAs f s) (hw : w = '*' ∨ w = '?')
    (hmem : w ∈ s) : span = .every := by
  have hnames : ∀ {a v}, f.Names a v → w ∉ a := by
    intro a v hv
    rcases hw with rfl | rfl <;> exact not_mem_of_names hv rfl (by decide)
  cases h with
  | star | mark => rfl
  | single h => exact absurd hmem (hnames h)
  | range hlo hhi _ =>
    rw [List.mem_append, List.mem_cons] at hmem
    rcases hmem with hmem | rfl | hmem
    · exact absurd hmem (hnames hlo)
    · exact absurd hw (by decide)
    · exact absurd hmem (hnames hhi)

section

variable {span : Span} (hs : ∀ c ∈ s, isBlank c = false) (h : span.WrittenAs f s)
  (hspaced : Spaced s t)

include hs h hspaced

/-- A span that is no wildcard is read whether blanks behind it are cut off or not. -/
theorem readSpan_of_spaced (hspan : span ≠ .every) :
    readSpan f (trimLeft t) = .ok span ∧ readSpan f (trim t) = .ok span := by
  cases h with
  | star | mark => exact absurd rfl hspan
  | single h =>
    have htrim := hspaced.trim_eq (not_isSeparator_of_names h) hs
    constructor
    · exact readSpan_of_trim_names (by rwa [trim_trimLeft, htrim])
    · exact readSpan_of_trim_names (by rwa [trim_trim, htrim])
  | range hlo hhi hle =>
    obtain ⟨ha, hb⟩ := List.forall_mem_append.1 hs
    replace hb := (List.forall_mem_cons.1 hb).2
    obtain ⟨a', b', rfl, hspaceda, hspacedb⟩ := hspaced.exists_append_cons rfl
    rw [← hspaceda.trim_eq (not_isSeparator_of_names hlo) ha, ← trim_trimLeft] at hlo
    rw [← hspacedb.trim_eq (not_isSeparator_of_names hhi) hb] at hhi
    constructor
    · rw [trimLeft, dropWhile_isBlank_append_cons rfl]
      exact readSpan_of_trim_range hlo hhi hle
    · rw [← trim_trimRight] at hhi
      rw [trim_append_cons rfl]
      exact readSpan_of_trim_range hlo hhi hle

theorem readSpan_trim_of_spaced : readSpan f (trim t) = .ok span := by
  by_cases hspan : span = .every
  · subst hspan
    obtain ⟨w, rfl, hw⟩ := exists_wildcard_of_every h
    rw [hspaced.trim_eq (not_isSeparator_of_wildcard hw) hs]
    rcases hw with rfl | rfl <;> rfl
  · exact (readSpan_of_spaced hs h hspaced hspan).2

/-- In front of a slash the blanks behind a span are not cut off, and with them a wildcard is
refused. -/
theorem readsUnless_readSpan : ReadsUnless (EndsApart t) (readSpan f (trimLeft t)) span := by
  by_cases hspan : span = .every
  · subst hspan
    obtain ⟨w, rfl, hw⟩ := exists_wildcard_of_every h
    obtain ⟨g, e, rfl, hg, he⟩ := hspaced.exists_between (not_isSeparator_of_wildcard hw)
    have htrim : trimLeft (g ++ [w] ++ e) = w :: e := by
      rw [List.append_assoc, trimLeft, List.dropWhile_append_of_pos hg]
      rcases hw with rfl | rfl <;> rfl
    rw [endsApart_wildcard_iff hw he, htrim]
    constructor
    · intro hnil
      obtain rfl := not_not.1 hnil
      rcases hw with rfl | rfl <;> rfl
    · exact fun hne => ⟨w, hw, readSpan_wildcard_append hw hne he⟩
  · refine readsUnless_of_not (fun hends => ?_) (readSpan_of_spaced hs h hspaced hspan).1
    obtain ⟨w, hmem, hw⟩ := hends.exists_wildcard_mem
    have hblank : ¬ isBlank w = true := by rcases hw with rfl | rfl <;> decide
    exact hspan (eq_every_of_wildcard_mem h hw ((hspaced.mem_or_isBlank hmem).resolve_right hblank))

end

/-- What can be read as a span is an item without a step. -/
theorem Item.read_of_readSpan {span : Span} (h : readSpan f s = .ok span) (hs : '/' ∉ s) :
    Item.read f s = .ok (.values span none) := by
  have hne : s ≠ [] := by
    rintro rfl
    exact ne_nil_of_span ((readSpan_eq_ok_iff (not_blank_of_all rfl)).1 h) rfl
  have hlast : f = .dayOfMonth → s ≠ ['l'] ∧ s ≠ ['L'] := by
    intro hf
    constructor
    · rintro rfl
      exact (ne_lastDay_of_span ((readSpan_eq_ok_iff (not_blank_of_all rfl)).1 h) hf).1 rfl
    · rintro rfl
      exact (ne_lastDay_of_span ((readSpan_eq_ok_iff (not_blank_of_all rfl)).1 h) hf).2 rfl
  rw [Item.read_of_no_slash hne hlast hs, h]
  rfl

/-- With a step the blanks in front of a span are cut off and those behind it are not. -/
theorem Item.read_trim_append_slash {n : Nat} (hs : '/' ∉ a) (hn : IsNumeral (trim b) n)
    (hpos : 0 < n) (hmax : n ≤ maxUnsigned64) :
    Item.read f (trim (a ++ '/' :: b)) = (do
      let span ← readSpan f (trimLeft a)
      return .values span (some n)) := by
  have hslash : '/' ∉ trimLeft a := fun hmem => hs ((List.dropWhile_sublist _).mem hmem)
  rw [← trim_trimRight] at hn
  rw [trim_append_cons rfl, Item.read_append_slash hslash, readStep_eq_ok_iff.2 ⟨hn, hpos, hmax⟩]
  rfl

/-- A spaced item is read as the item, unless there are blanks between its wildcard and its
slash. -/
theorem readsUnless_read {item : Item} (hs : ∀ c ∈ s, isBlank c = false)
    (h : item.WrittenAs f s) (hspaced : Spaced s t) :
    ReadsUnless (WildcardApart t) (Item.read f (trim t)) item := by
  cases h with
  | lower hf | upper hf =>
    refine readsUnless_of_not (not_wildcardApart (hspaced.not_mem rfl (by decide))) ?_
    rw [hspaced.trim_eq (not_isSeparator_of_all rfl) hs]
    subst hf
    rfl
  | whole h =>
    have hslash := hspaced.not_mem rfl (slash_not_mem_of_span h)
    exact readsUnless_of_not (not_wildcardApart hslash) <|
      Item.read_of_readSpan (readSpan_trim_of_spaced hs h hspaced)
        fun hmem => hslash (trim_subset t hmem)
  | stepped h hn hpos hmax =>
    obtain ⟨ha, hb⟩ := List.forall_mem_append.1 hs
    replace hb := (List.forall_mem_cons.1 hb).2
    obtain ⟨a', b', rfl, hspaceda, hspacedb⟩ := hspaced.exists_append_cons rfl
    have hslash := hspaceda.not_mem rfl (slash_not_mem_of_span h)
    have hslash' : '/' ∉ b' := hspacedb.not_mem rfl fun hmem =>
      absurd (not_isSeparator_of_isNumeral hn _ hmem) (by decide)
    rw [← hspacedb.trim_eq (not_isSeparator_of_isNumeral hn) hb] at hn
    rw [wildcardApart_append_slash_iff hslash hslash',
      Item.read_trim_append_slash hslash hn hpos hmax]
    exact (readsUnless_readSpan ha h hspaceda).map _

/-! ## Reading spaced fields -/

theorem readsUnless_readItems {ss ts : List (List Char)} {items : List Item}
    (hs : ∀ s ∈ ss, ∀ c ∈ s, isBlank c = false)
    (h : List.Forall₂ (fun s item => Item.WrittenAs f item s) ss items)
    (hspaced : List.Forall₂ Spaced ss ts) :
    ReadsUnless (∃ t ∈ ts, WildcardApart t) (readItems f ts) items := by
  induction h generalizing ts with
  | nil =>
    cases hspaced
    exact readsUnless_of_not (by simp) rfl
  | @cons s item ss items hitem _ ih =>
    obtain ⟨t, ts, ht, hts, rfl⟩ := List.forall₂_cons_left_iff.1 hspaced
    obtain ⟨hblank, hs⟩ := List.forall_mem_cons.1 hs
    have hfirst := readsUnless_read hblank hitem ht
    have hothers := ih hs hts
    rw [List.exists_mem_cons_iff]
    unfold readItems
    constructor
    · intro hnone
      obtain ⟨hapart, haparts⟩ := not_or.1 hnone
      rw [hfirst.1 hapart, hothers.1 haparts]
    · intro hsome
      by_cases hapart : WildcardApart t
      · obtain ⟨w, hw, hread⟩ := hfirst.2 hapart
        rw [hread]
        exact ⟨w, hw, rfl⟩
      · obtain ⟨w, hw, hread⟩ := hothers.2 (hsome.resolve_left hapart)
        rw [hfirst.1 hapart, hread]
        exact ⟨w, hw, rfl⟩

namespace Field

/-- **Blanks around separators.**  Let a text without blanks be read as a set, and let blanks be put
in at its ends and before and after its commas, hyphens and slashes.  Then the same set is read,
unless there are blanks between a wildcard and the slash behind it.  In this case, and in no other,
the text is refused: the wildcard with the blanks behind it counts as a value, which it does not
name. -/
theorem parse_spaced {text spaced : String} {set : ValueSet}
    (hblank : ∀ c ∈ text.toList, isBlank c = false) (h : f.parse text = .ok set)
    (hspaced : Spaced text.toList spaced.toList) :
    (¬ WildcardApart spaced.toList → f.parse spaced = .ok set) ∧
      (WildcardApart spaced.toList → ∃ w, (w = '*' ∨ w = '?') ∧
        f.parse spaced = .error ⟨spaced, .field f (.unparseable (String.ofList [w]))⟩) := by
  rw [← String.ofList_toList (s := text), parse_ofList_eq_ok_iff] at h
  obtain ⟨items, hitems, rfl⟩ := (readField_eq_ok_iff hblank).1 h
  have hread := readsUnless_readItems (not_blank_of_mem_pieces hblank) hitems
    hspaced.forall₂_piecesAt
  rw [← wildcardApart_iff_piece] at hread
  unfold parse readField
  constructor
  · intro hapart
    rw [hread.1 hapart]
  · intro hapart
    obtain ⟨w, hw, hrefused⟩ := hread.2 hapart
    rw [hrefused]
    exact ⟨w, hw, rfl⟩

/-- A wildcard, the last day and a range with a step, and blanks of several kinds. -/
theorem parse_spaced_wildcard_and_range :
    ∃ set, parse .dayOfMonth "*/15,L,7-21/7" = .ok set ∧
      parse .dayOfMonth " */ 15 ,\tL , 7\u3000- 21/ 7" = .ok set ∧
      set.toList = [1, 7, 14, 16, 21, 31, 32] := by
  have hspaced : Spaced "*/15,L,7-21/7".toList " */ 15 ,\tL , 7\u3000- 21/ 7".toList :=
    .cons (s := "*".toList) (g := " ".toList) (h := []) (not_isSeparator_of_all rfl) rfl
      (List.all_eq_true.1 rfl) (List.all_eq_true.1 rfl) <|
    .cons (s := "15".toList) (g := " ".toList) (h := " ".toList) (not_isSeparator_of_all rfl) rfl
      (List.all_eq_true.1 rfl) (List.all_eq_true.1 rfl) <|
    .cons (s := "L".toList) (g := "\t".toList) (h := " ".toList) (not_isSeparator_of_all rfl) rfl
      (List.all_eq_true.1 rfl) (List.all_eq_true.1 rfl) <|
    .cons (s := "7".toList) (g := " ".toList) (h := "\u3000".toList) (not_isSeparator_of_all rfl)
      rfl (List.all_eq_true.1 rfl) (List.all_eq_true.1 rfl) <|
    .cons (s := "21".toList) (g := " ".toList) (h := []) (not_isSeparator_of_all rfl) rfl
      (List.all_eq_true.1 rfl) (List.all_eq_true.1 rfl) <|
    .last (s := "7".toList) (g := " ".toList) (h := []) (not_isSeparator_of_all rfl)
      (List.all_eq_true.1 rfl) (List.all_eq_true.1 rfl)
  refine ⟨_, rfl, ?_, by decide⟩
  exact (parse_spaced (not_blank_of_all rfl) rfl hspaced).1 (by decide)

/-- Behind a value a blank does not matter, and behind a wildcard it does. -/
theorem blank_behind_wildcard_refused :
    Spaced "*/2".toList "* /2".toList ∧ Spaced "5/2".toList "5 /2".toList ∧
      (∃ set, parse .minute "*/2" = .ok set ∧ set.toList = (List.range 30).map (2 * ·)) ∧
      parse .minute "* /2" = .error ⟨"* /2", .field .minute (.unparseable "*")⟩ ∧
      parse .minute "5 /2" = parse .minute "5/2" := by
  have hspaced : ∀ c, isSeparator c = false → Spaced [c, '/', '2'] [c, ' ', '/', '2'] := by
    intro c hc
    have hend : Spaced ['2'] ['2'] := .last (g := []) (h := []) (not_isSeparator_of_all rfl)
      (List.all_eq_true.1 rfl) (List.all_eq_true.1 rfl)
    exact .cons (s := [c]) (g := []) (h := [' ']) (List.forall_mem_singleton.2 hc) rfl
      (List.all_eq_true.1 rfl) (List.all_eq_true.1 rfl) hend
  exact ⟨hspaced '*' rfl, hspaced '5' rfl, ⟨_, rfl, by decide⟩, rfl, by decide⟩

end Field

end Crontab
