import Crontab.Proofs.Field.Members
import Crontab.Proofs.Pattern.Meaning
import Crontab.Proofs.Text.Numeral
import Mathlib.Data.List.Nodup

/-!
# Reading follows the grammar

The readers of a field accept exactly the texts of its grammar, and the set that is read holds
exactly the numbers that the items of the text stand for.

* `aliasValue?_eq_some_iff`, `rawValue?_eq_some_iff`, `readValue_eq_ok_iff` — the names of values.
* `readSpan_append_hyphen`, `readSpan_of_no_hyphen`, `Item.read_append_slash`,
  `Item.read_of_no_slash` — which parts of a text are read, and in which order.
* `readStep_eq_ok_iff`, `readSpan_eq_ok_iff`, `Item.read_eq_ok_iff` — the texts of steps, spans and
  items; `not_mem_of_item` — what these do not hold.
* `readItems_eq_ok_iff`, `exists_readField_iff`, `mem_readField_iff` — the texts of lists of items, and
  the sets that they denote.
* `holds_of_readField` — every field that is read holds a number.
* `Field.parse_grammar` — a field is read exactly from the texts of its grammar, as the union of what
  its items stand for.
-/

set_option autoImplicit false

namespace Crontab

open Text

variable {f : Field} {v n : Nat} {c : Char} {s t : List Char}

/-! ## Aliases -/

theorem isAlpha_of_mem_alias : ∀ a ∈ f.aliases, ∀ c ∈ a.toList, c.isAlpha = true := by
  have hall : ∀ a ∈ f.aliases, a.toList.all Char.isAlpha = true := by cases f <;> decide
  exact fun a ha => List.all_eq_true.1 (hall a ha)

theorem lower_alias : ∀ a ∈ f.aliases, lower a.toList = a.toList := by
  cases f <;> decide

theorem alias_ne_nil : ∀ a ∈ f.aliases, a.toList ≠ [] := by
  cases f <;> decide

theorem nodup_aliases (f : Field) : f.aliases.Nodup := by
  cases f <;> decide

theorem sameLetters_alias {a : String} (ha : a ∈ f.aliases) :
    sameLetters s a.toList = true ↔ lower s = a.toList := by
  rw [sameLetters, beq_iff_eq, lower_alias a ha]

theorem aliasValue?_eq_some_iff : aliasValue? f s = some v ↔ f.HasAlias s v := by
  unfold aliasValue? Field.HasAlias
  rw [Option.map_eq_some_iff]
  constructor
  · rintro ⟨i, hi, rfl⟩
    obtain ⟨hlt, hsame, -⟩ := List.findIdx?_eq_some_iff_getElem.1 hi
    have hget := List.getElem?_eq_getElem hlt
    refine ⟨i, _, hget, ?_, Nat.add_comm _ _⟩
    rw [sameLetters_alias (List.mem_of_getElem? hget)]
    exact beq_iff_eq.1 hsame
  · rintro ⟨i, a, hget, hsame, rfl⟩
    rw [sameLetters_alias (List.mem_of_getElem? hget)] at hsame
    obtain ⟨hlt, rfl⟩ := List.getElem?_eq_some_iff.1 hget
    refine ⟨i, List.findIdx?_eq_some_iff_getElem.2 ⟨hlt, beq_iff_eq.2 hsame, ?_⟩, Nat.add_comm _ _⟩
    -- An alias that stands further to the left is another one.
    intro j hj hsame'
    have heq : f.aliases[j] = f.aliases[i] :=
      String.toList_inj.1 ((beq_iff_eq.1 hsame').symm.trans hsame)
    exact absurd ((nodup_aliases f).getElem_inj_iff.1 heq) (Nat.ne_of_lt hj)

/-- An alias is some letters. -/
theorem letters_of_hasAlias (h : f.HasAlias s v) : s ≠ [] ∧ ∀ c ∈ s, c.isAlpha = true := by
  obtain ⟨i, a, hget, hsame, -⟩ := h
  have ha := List.mem_of_getElem? hget
  rw [sameLetters_alias ha] at hsame
  constructor
  · rintro rfl
    exact alias_ne_nil a ha hsame.symm
  · intro c hc
    have hlower : c.toLower.isAlpha = true := by
      refine isAlpha_of_mem_alias a ha _ ?_
      rw [← hsame]
      exact List.mem_map_of_mem hc
    cases hupper : c.isUpper with
    | true => exact (Bool.or_eq_true _ _).mpr (.inl hupper)
    | false => rwa [toLower_of_isUpper_eq_false hupper] at hlower

/-! ## Values -/

/-- What names a value holds letters, digits and signs only. -/
theorem not_mem_of_names (h : f.Names s v) (hc : c.isAlphanum = false) (hplus : c ≠ '+') :
    c ∉ s := by
  intro hmem
  obtain ⟨halpha, hdigit⟩ := Bool.or_eq_false_iff.1 hc
  rcases h.1 with h | h
  · rcases isDigit_or_eq_of_mem_numeral h hmem with h | h
    · rw [h] at hdigit
      cases hdigit
    · exact hplus h
  · rw [(letters_of_hasAlias h).2 c hmem] at halpha
    cases halpha

/-- The same holds when there are blanks around. -/
theorem not_mem_of_trim_names (h : f.Names (trim s) v) (hc : c.isAlphanum = false)
    (hplus : c ≠ '+') (hblank : isBlank c = false) : c ∉ s :=
  fun hmem => not_mem_of_names h hc hplus (mem_trim hmem hblank)

theorem ne_nil_of_names (h : f.Names s v) : s ≠ [] := by
  rcases h.1 with h | h
  · exact ne_nil_of_isNumeral h
  · exact (letters_of_hasAlias h).1

/-- A number is no alias. -/
theorem not_hasAlias_of_isNumeral {w : Nat} (h : IsNumeral s n) : ¬ f.HasAlias s w := by
  intro halias
  obtain ⟨hne, hletters⟩ := letters_of_hasAlias halias
  obtain ⟨c, hc⟩ := List.exists_mem_of_ne_nil s hne
  have halpha := hletters c hc
  rcases isDigit_or_eq_of_mem_numeral h hc with hdigit | rfl
  · rw [isAlpha_of_isDigit hdigit] at halpha
    cases halpha
  · cases halpha

theorem rawValue?_eq_some_iff :
    rawValue? f s = some v ↔ (v ≤ 255 ∧ IsNumeral s v) ∨ f.HasAlias s v := by
  rw [← natural?_eq_some_iff, ← aliasValue?_eq_some_iff]
  unfold rawValue?
  cases h : natural? 255 s with
  | none => simp
  | some w =>
    have hnumeral := (natural?_eq_some_iff.1 h).2
    simp [aliasValue?_eq_some_iff, not_hasAlias_of_isNumeral hnumeral]

/-- A value is read from what names it, whatever blanks stand around. -/
theorem readValue_eq_ok_iff : readValue f s = .ok v ↔ f.Names (trim s) v := by
  have hraw : f.Names (trim s) v ↔ rawValue? f (trim s) = some v ∧ f.min ≤ v ∧ v ≤ f.max := by
    have := f.max_lt
    rw [rawValue?_eq_some_iff, Field.Names]
    constructor
    · rintro ⟨h | h, hmin, hmax⟩
      · exact ⟨.inl ⟨by omega, h⟩, hmin, hmax⟩
      · exact ⟨.inr h, hmin, hmax⟩
    · rintro ⟨⟨-, h⟩ | h, hlegal⟩
      · exact ⟨.inl h, hlegal⟩
      · exact ⟨.inr h, hlegal⟩
  rw [hraw]
  unfold readValue
  cases rawValue? f (trim s) with
  | none => simp
  | some w =>
    simp only [Option.some.injEq]
    split <;> grind

theorem readStep_eq_ok_iff :
    readStep s = .ok n ↔ IsNumeral (trim s) n ∧ 0 < n ∧ n ≤ maxUnsigned64 := by
  have hnumber : IsNumeral (trim s) n ∧ 0 < n ∧ n ≤ maxUnsigned64 ↔
      natural? maxUnsigned64 (trim s) = some n ∧ 0 < n := by
    rw [natural?_eq_some_iff]
    tauto
  rw [hnumber]
  unfold readStep
  split <;> grind

/-! ## Spans -/

/-- Two texts with a separator between are no other single character. -/
theorem append_cons_ne_singleton {sep : Char} (h : sep ≠ c) : s ++ sep :: t ≠ [c] := by
  intro heq
  have hmem : sep ∈ s ++ sep :: t := List.mem_append_right _ List.mem_cons_self
  rw [heq] at hmem
  exact h (List.mem_singleton.1 hmem)

/-- A text with a hyphen is read as two values. -/
theorem readSpan_append_hyphen (hs : '-' ∉ s) :
    readSpan f (s ++ '-' :: t) = (do
      let lo ← readValue f s
      let hi ← readValue f t
      if hi < lo then .error (.descendingRange (String.ofList (s ++ '-' :: t)))
      else .ok (.range lo hi)) := by
  have hwild : ¬ isWildcard (s ++ '-' :: t) = true := by
    rw [isWildcard_iff]
    rintro (heq | heq)
    · exact append_cons_ne_singleton (by decide) heq
    · exact append_cons_ne_singleton (by decide) heq
  unfold readSpan
  rw [if_neg hwild, cut_append_cons hs]
  dsimp only
  cases readValue f s with
  | error e => rfl
  | ok lo => cases readValue f t <;> rfl

/-- A text without a hyphen that is no wildcard is read as one value. -/
theorem readSpan_of_no_hyphen (hwild : s ≠ ['*'] ∧ s ≠ ['?']) (hs : '-' ∉ s) :
    readSpan f s = (do
      let v ← readValue f s
      return .single v) := by
  have hnot : ¬ isWildcard s = true := by
    rw [isWildcard_iff, not_or]
    exact hwild
  unfold readSpan
  rw [if_neg hnot, cut_eq_none_iff.2 hs]
  cases readValue f s <;> rfl

/-- A value is no wildcard and no range, whatever blanks stand around. -/
theorem readSpan_of_trim_names (h : f.Names (trim s) v) : readSpan f s = .ok (.single v) := by
  have hwild : s ≠ ['*'] ∧ s ≠ ['?'] := by
    constructor
    · rintro rfl
      exact not_mem_of_trim_names h rfl (by decide) rfl List.mem_cons_self
    · rintro rfl
      exact not_mem_of_trim_names h rfl (by decide) rfl List.mem_cons_self
  rw [readSpan_of_no_hyphen hwild (not_mem_of_trim_names h rfl (by decide) rfl),
    readValue_eq_ok_iff.2 h]
  rfl

theorem readSpan_of_names (hs : ∀ c ∈ s, isBlank c = false) (h : f.Names s v) :
    readSpan f s = .ok (.single v) := by
  refine readSpan_of_trim_names ?_
  rwa [trim_of_not_blank hs]

theorem readSpan_of_range {lo hi : Nat} (hs : ∀ c ∈ s, isBlank c = false)
    (ht : ∀ c ∈ t, isBlank c = false) (hlo : f.Names s lo) (hhi : f.Names t hi) (h : lo ≤ hi) :
    readSpan f (s ++ '-' :: t) = .ok (.range lo hi) := by
  have hreadlo : readValue f s = .ok lo := by rwa [readValue_eq_ok_iff, trim_of_not_blank hs]
  have hreadhi : readValue f t = .ok hi := by rwa [readValue_eq_ok_iff, trim_of_not_blank ht]
  rw [readSpan_append_hyphen (not_mem_of_names hlo rfl (by decide)), hreadlo, hreadhi]
  exact if_neg (Nat.not_lt.2 h)

/-- A text without blanks is read as a span exactly when it is one of its texts. -/
theorem readSpan_eq_ok_iff {span : Span} (hs : ∀ c ∈ s, isBlank c = false) :
    readSpan f s = .ok span ↔ span.WrittenAs f s := by
  constructor
  · intro h
    unfold readSpan at h
    split at h
    · rename_i hwild
      cases h
      rcases isWildcard_iff.1 hwild with rfl | rfl
      · exact .star
      · exact .mark
    -- A hyphen makes a range of any other text, so that it has a value on both sides.
    · split at h
      · rename_i a b hcut
        obtain ⟨rfl, -⟩ := eq_of_cut hcut
        obtain ⟨ha, hb⟩ := List.forall_mem_append.1 hs
        replace hb := (List.forall_mem_cons.1 hb).2
        split at h
        · cases h
        · rename_i lo hlo
          rw [readValue_eq_ok_iff, trim_of_not_blank ha] at hlo
          split at h
          · cases h
          · rename_i hi hhi
            rw [readValue_eq_ok_iff, trim_of_not_blank hb] at hhi
            split at h
            · cases h
            · rename_i hle
              cases h
              exact .range hlo hhi (Nat.not_lt.1 hle)
      · split at h
        · cases h
        · rename_i v hv
          rw [readValue_eq_ok_iff, trim_of_not_blank hs] at hv
          cases h
          exact .single hv
  · intro h
    cases h with
    | star | mark => rfl
    | single h => exact readSpan_of_names hs h
    | range hlo hhi h =>
      obtain ⟨ha, hb⟩ := List.forall_mem_append.1 hs
      exact readSpan_of_range ha (List.forall_mem_cons.1 hb).2 hlo hhi h

theorem ne_nil_of_span {span : Span} (h : span.WrittenAs f s) : s ≠ [] := by
  cases h with
  | star | mark => exact List.cons_ne_nil _ _
  | single h => exact ne_nil_of_names h
  | range _ _ _ => exact List.append_ne_nil_of_right_ne_nil _ (List.cons_ne_nil _ _)

/-- A slash ends the text of a span. -/
theorem slash_not_mem_of_span {span : Span} (h : span.WrittenAs f s) : '/' ∉ s := by
  have hslash : ∀ {a v}, f.Names a v → '/' ∉ a := fun h => not_mem_of_names h rfl (by decide)
  cases h with
  | star | mark => decide
  | single h => exact hslash h
  | range hlo hhi _ => simp [hslash hlo, hslash hhi]

/-! ## Items -/

/-- The letter of the last day, small or capital. -/
theorem sameLetters_l_iff : sameLetters s ['l'] = true ↔ s = ['l'] ∨ s = ['L'] := by
  rw [sameLetters, beq_iff_eq]
  constructor
  · intro h
    obtain ⟨c, rfl, hc⟩ : ∃ c, s = [c] ∧ c.toLower = 'l' := by
      simpa [lower, List.map_eq_singleton_iff] using h
    unfold Char.toLower at hc
    split at hc
    · have hsum : c.val + 32 = 108 := congrArg Char.val hc
      have hval : c.val = 76 := by grind
      exact .inr (congrArg (fun d => [d]) (Char.ext hval))
    · exact .inl (congrArg (fun d => [d]) hc)
  · rintro (rfl | rfl) <;> rfl

/-- A letter is no span of a field without aliases. -/
theorem not_span_of_letter {span : Span} (haliases : f.aliases = []) (hc : c.isAlpha = true) :
    ¬ span.WrittenAs f [c] := by
  intro h
  generalize hs : [c] = s at h
  cases h with
  | star | mark =>
    cases hs
    cases hc
  | single h =>
    subst hs
    rcases h.1 with h | ⟨i, a, hget, -⟩
    · rcases isDigit_or_eq_of_mem_numeral h (List.mem_singleton_self c) with hdigit | rfl
      · rw [isAlpha_of_isDigit hdigit] at hc
        cases hc
      · cases hc
    · rw [haliases] at hget
      cases hget
  | range hlo hhi _ =>
    refine append_cons_ne_singleton ?_ hs.symm
    rintro rfl
    cases hc

/-- A text with a slash is read as a step and then as a span. -/
theorem Item.read_append_slash (hs : '/' ∉ s) :
    Item.read f (s ++ '/' :: t) = (do
      let n ← readStep t
      let span ← readSpan f s
      return .values span (some n)) := by
  have hne : s ++ '/' :: t ≠ [] := List.append_ne_nil_of_right_ne_nil s (List.cons_ne_nil _ _)
  have hlast : ¬ (f = .dayOfMonth ∧ sameLetters (s ++ '/' :: t) ['l'] = true) := by
    rintro ⟨-, hsame⟩
    rcases sameLetters_l_iff.1 hsame with heq | heq
    · exact append_cons_ne_singleton (by decide) heq
    · exact append_cons_ne_singleton (by decide) heq
  unfold Item.read
  rw [if_neg hne, if_neg hlast, cut_append_cons hs]
  dsimp only
  cases readStep t with
  | error e => rfl
  | ok n => cases readSpan f s <;> rfl

/-- Any other text is read as a span, unless it is empty or the letter of the last day. -/
theorem Item.read_of_no_slash (hne : s ≠ []) (hlast : f = .dayOfMonth → s ≠ ['l'] ∧ s ≠ ['L'])
    (hs : '/' ∉ s) :
    Item.read f s = (do
      let span ← readSpan f s
      return .values span none) := by
  have hnot : ¬ (f = .dayOfMonth ∧ sameLetters s ['l'] = true) := by
    rw [sameLetters_l_iff]
    tauto
  unfold Item.read
  rw [if_neg hne, if_neg hnot, cut_eq_none_iff.2 hs]
  cases readSpan f s <;> rfl

/-- A span is not the letter of the last day. -/
theorem ne_lastDay_of_span {span : Span} (h : span.WrittenAs f s) (hf : f = .dayOfMonth) :
    s ≠ ['l'] ∧ s ≠ ['L'] := by
  subst hf
  constructor
  · rintro rfl
    exact not_span_of_letter rfl rfl h
  · rintro rfl
    exact not_span_of_letter rfl rfl h

theorem read_of_span {span : Span} (hs : ∀ c ∈ s, isBlank c = false) (h : span.WrittenAs f s) :
    Item.read f s = .ok (.values span none) := by
  rw [Item.read_of_no_slash (ne_nil_of_span h) (ne_lastDay_of_span h) (slash_not_mem_of_span h),
    (readSpan_eq_ok_iff hs).2 h]
  rfl

theorem read_of_stepped {span : Span} (hs : ∀ c ∈ s, isBlank c = false)
    (ht : ∀ c ∈ t, isBlank c = false) (h : span.WrittenAs f s) (hn : IsNumeral t n) (hpos : 0 < n)
    (hmax : n ≤ maxUnsigned64) : Item.read f (s ++ '/' :: t) = .ok (.values span (some n)) := by
  have hstep : readStep t = .ok n := by
    rw [readStep_eq_ok_iff, trim_of_not_blank ht]
    exact ⟨hn, hpos, hmax⟩
  rw [Item.read_append_slash (slash_not_mem_of_span h), hstep, (readSpan_eq_ok_iff hs).2 h]
  rfl

/-- A text without blanks is read as an item exactly when it is one of its texts. -/
theorem Item.read_eq_ok_iff {item : Item} (hs : ∀ c ∈ s, isBlank c = false) :
    Item.read f s = .ok item ↔ item.WrittenAs f s := by
  constructor
  · intro h
    unfold Item.read at h
    split at h
    · cases h
    · split at h
      · rename_i hlast
        cases h
        rcases sameLetters_l_iff.1 hlast.2 with rfl | rfl
        · exact .lower hlast.1
        · exact .upper hlast.1
      · split at h
        · rename_i a b hcut
          obtain ⟨rfl, -⟩ := eq_of_cut hcut
          obtain ⟨ha, hb⟩ := List.forall_mem_append.1 hs
          replace hb := (List.forall_mem_cons.1 hb).2
          split at h
          · cases h
          · rename_i n hn
            rw [readStep_eq_ok_iff, trim_of_not_blank hb] at hn
            split at h
            · cases h
            · rename_i span hspan
              cases h
              exact .stepped ((readSpan_eq_ok_iff ha).1 hspan) hn.1 hn.2.1 hn.2.2
        · split at h
          · cases h
          · rename_i span hspan
            cases h
            exact .whole ((readSpan_eq_ok_iff hs).1 hspan)
  · intro h
    cases h with
    | lower hf | upper hf =>
      subst hf
      rfl
    | whole h => exact read_of_span hs h
    | stepped h hn hpos hmax =>
      obtain ⟨ha, hb⟩ := List.forall_mem_append.1 hs
      exact read_of_stepped ha (List.forall_mem_cons.1 hb).2 h hn hpos hmax

/-- What writes a span holds letters, digits, signs and wildcards only. -/
theorem not_mem_of_span {span : Span} (h : span.WrittenAs f s) (hc : c.isAlphanum = false)
    (hmarks : c ∉ ['+', '*', '?', '-']) : c ∉ s := by
  simp only [List.mem_cons, List.not_mem_nil, or_false, not_or] at hmarks
  obtain ⟨hplus, hstar, hmark, hhyphen⟩ := hmarks
  cases h with
  | star => exact List.not_mem_cons_of_ne_of_not_mem hstar List.not_mem_nil
  | mark => exact List.not_mem_cons_of_ne_of_not_mem hmark List.not_mem_nil
  | single h => exact not_mem_of_names h hc hplus
  | range hlo hhi _ =>
    rw [List.mem_append, List.mem_cons]
    rintro (hmem | rfl | hmem)
    · exact not_mem_of_names hlo hc hplus hmem
    · exact hhyphen rfl
    · exact not_mem_of_names hhi hc hplus hmem

theorem not_mem_of_item {item : Item} (h : item.WrittenAs f s) (hc : c.isAlphanum = false)
    (hmarks : c ∉ ['+', '*', '?', '-', '/']) : c ∉ s := by
  have hspan : c ∉ ['+', '*', '?', '-'] := fun hmem => hmarks (List.mem_append_left ['/'] hmem)
  cases h with
  | lower _ | upper _ =>
    intro hmem
    rw [List.mem_singleton.1 hmem] at hc
    cases hc
  | whole h => exact not_mem_of_span h hc hspan
  | stepped h hn _ _ =>
    rw [List.mem_append, List.mem_cons]
    rintro (hmem | rfl | hmem)
    · exact not_mem_of_span h hc hspan hmem
    · exact hmarks (by decide)
    · rcases isDigit_or_eq_of_mem_numeral hn hmem with hdigit | rfl
      · rw [Char.isAlphanum, hdigit, Bool.or_true] at hc
        cases hc
      · exact hmarks (by decide)

/-- A text without blanks writes one item at most. -/
theorem Item.writtenAs_unique {a b : Item} (hs : ∀ c ∈ s, isBlank c = false)
    (ha : a.WrittenAs f s) (hb : b.WrittenAs f s) : a = b := by
  have hread : Except.ok a = Except.ok b :=
    ((Item.read_eq_ok_iff hs).2 ha).symm.trans ((Item.read_eq_ok_iff hs).2 hb)
  exact Except.ok.inj hread

theorem Span.legal_of_writtenAs {span : Span} (h : span.WrittenAs f s) : span.Legal f := by
  cases h with
  | star | mark => trivial
  | single h => exact h.2
  | range hlo hhi h => exact ⟨hlo.2.1, h, hhi.2.2⟩

/-- The grammar lets in legal items only. -/
theorem Item.legal_of_writtenAs {item : Item} (h : item.WrittenAs f s) : item.Legal f := by
  cases h with
  | lower h | upper h => exact h
  | whole h => exact ⟨Span.legal_of_writtenAs h, fun n hn => by cases hn⟩
  | stepped h _ hpos _ =>
    refine ⟨Span.legal_of_writtenAs h, fun m hm => ?_⟩
    cases hm
    exact hpos

/-! ## Fields -/

theorem readItems_eq_ok_iff {pieces : List (List Char)} {items : List Item}
    (h : ∀ s ∈ pieces, ∀ c ∈ s, isBlank c = false) :
    readItems f pieces = .ok items ↔
      List.Forall₂ (fun s item => Item.WrittenAs f item s) pieces items := by
  induction pieces generalizing items with
  | nil => simp [readItems, eq_comm]
  | cons s pieces ih =>
    obtain ⟨hs, hpieces⟩ := List.forall_mem_cons.1 h
    rw [List.forall₂_cons_left_iff]
    simp only [← Item.read_eq_ok_iff hs, ← ih hpieces, readItems, trim_of_not_blank hs]
    cases Item.read f s with
    | error e => simp
    | ok item => cases readItems f pieces <;> simp [eq_comm]

theorem legal_of_forall₂ {pieces : List (List Char)} {items : List Item}
    (h : List.Forall₂ (fun piece item => Item.WrittenAs f item piece) pieces items) :
    ∀ item ∈ items, item.Legal f := by
  intro item hi
  obtain ⟨piece, -, hitem⟩ := exists_left_of_forall₂ h hi
  exact Item.legal_of_writtenAs hitem

section

variable {set : ValueSet} (hs : ∀ c ∈ s, isBlank c = false)

include hs

theorem not_blank_of_mem_pieces : ∀ piece ∈ piecesAt ',' s, ∀ c ∈ piece, isBlank c = false :=
  fun _ hp c hc => hs c (mem_of_mem_pieces hp hc).1

/-- Commas part a text without blanks into the texts of its items. -/
theorem readField_eq_ok_iff :
    readField f s = .ok set ↔
      ∃ items, List.Forall₂ (fun piece item => Item.WrittenAs f item piece) (piecesAt ',' s) items ∧
        set = itemSet f items := by
  simp only [← readItems_eq_ok_iff (not_blank_of_mem_pieces hs), readField]
  cases readItems f (piecesAt ',' s) <;> simp [eq_comm]

theorem exists_readField_iff :
    (∃ set, readField f s = .ok set) ↔
      ∀ piece ∈ piecesAt ',' s, ∃ item, Item.WrittenAs f item piece := by
  rw [← exists_forall₂_iff]
  simp only [readField_eq_ok_iff hs]
  constructor
  · rintro ⟨_, items, hitems, -⟩
    exact ⟨items, hitems⟩
  · rintro ⟨items, hitems⟩
    exact ⟨_, items, hitems, rfl⟩

/-- The set of a field is the union of what its items stand for. -/
theorem mem_readField_iff (h : readField f s = .ok set) :
    v ∈ set ↔ ∃ piece ∈ piecesAt ',' s, ∃ item, Item.WrittenAs f item piece ∧ item.Covers f v := by
  obtain ⟨items, hitems, rfl⟩ := (readField_eq_ok_iff hs).1 h
  rw [mem_itemSet_iff (legal_of_forall₂ hitems)]
  constructor
  · rintro ⟨item, hi, hcovers⟩
    obtain ⟨piece, hp, hitem⟩ := exists_left_of_forall₂ hitems hi
    exact ⟨piece, hp, item, hitem, hcovers⟩
  · rintro ⟨piece, hp, item, hitem, hcovers⟩
    obtain ⟨other, hi, hother⟩ := exists_right_of_forall₂ hitems hp
    rw [Item.writtenAs_unique (not_blank_of_mem_pieces hs piece hp) hitem hother] at hcovers
    exact ⟨other, hi, hcovers⟩

/-- What is read for a field holds some number, and only such as a set of the field may hold. -/
theorem holds_of_readField (h : readField f s = .ok set) :
    (∃ v, v ∈ set) ∧ ∀ v ∈ set, f.Holds v := by
  obtain ⟨items, hitems, rfl⟩ := (readField_eq_ok_iff hs).1 h
  have hne : items ≠ [] := by
    rintro rfl
    exact pieces_ne_nil _ _ (List.forall₂_nil_right_iff.1 hitems)
  have hlegal := legal_of_forall₂ hitems
  exact ⟨exists_mem_itemSet hlegal hne, fun v hv => holds_of_mem_itemSet hlegal hv⟩

end

namespace Field

/-- **A field means what its grammar says.**  A text without blanks is read as a set of the field
exactly when each of the pieces between its commas writes an item, and the set then holds exactly the
numbers that one of these items stands for. -/
theorem parse_grammar (f : Field) (text : String) (h : ∀ c ∈ text.toList, isBlank c = false) :
    ((∃ set, f.parse text = .ok set) ↔
        ∀ piece ∈ text.toList.splitOn ',', ∃ item, Item.WrittenAs f item piece) ∧
      ∀ set, f.parse text = .ok set → ∀ v, v ∈ set ↔
        ∃ piece ∈ text.toList.splitOn ',', ∃ item, Item.WrittenAs f item piece ∧ item.Covers f v := by
  have hparse : ∀ set, f.parse text = .ok set ↔ readField f text.toList = .ok set := by
    intro set
    rw [← parse_ofList_eq_ok_iff, String.ofList_toList]
  simp only [hparse, ← piecesAt_eq_splitOn]
  exact ⟨exists_readField_iff h, fun set hset v => mem_readField_iff h hset⟩

/-- Sunday ends a range as 7, a step from Monday on leaves it out, and Monday is named once more. -/
theorem parse_grammar_sunday_last :
    (∀ c ∈ "5-7/2,+001/3,mOn".toList, isBlank c = false) ∧
      ∃ set, parse .dayOfWeek "5-7/2,+001/3,mOn" = .ok set ∧ set.toList = [0, 1, 4, 5] ∧
        ∀ v, v ∈ set ↔ ∃ piece ∈ "5-7/2,+001/3,mOn".toList.splitOn ',',
          ∃ item, Item.WrittenAs .dayOfWeek item piece ∧ item.Covers .dayOfWeek v := by
  have hblank : ∀ c ∈ "5-7/2,+001/3,mOn".toList, isBlank c = false := by
    have hall : "5-7/2,+001/3,mOn".toList.all (fun c => isBlank c == false) = true := by decide
    exact fun c hc => beq_iff_eq.1 (List.all_eq_true.1 hall c hc)
  exact ⟨hblank, _, rfl, by decide, (parse_grammar .dayOfWeek "5-7/2,+001/3,mOn" hblank).2 _ rfl⟩

/-- A second step and a second hyphen are outside the grammar. -/
example : (parse .minute "*/5/2").toOption = none ∧ (parse .minute "1-2-3").toOption = none := by
  decide

end Field

end Crontab
