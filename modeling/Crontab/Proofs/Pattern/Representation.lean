import Crontab.Pattern.Columns
import Crontab.Proofs.Matcher.Membership
import Crontab.Proofs.Pattern.Alternation
import Crontab.Proofs.Pattern.MinuteMode

/-!
# Patterns in columns are in step

Every text is read into columns without a shift out of a word, and the columns of a pattern have a
place for each of its sub-patterns.  So a moment is compared with conditions that are all there.

* `Matcher.Fits` — the conditions that have a place in the column of a field.
* `Matcher.read?_eq_some`, `readTokens_eq_some`, `readAll_eq_some`, `parse?_eq_some` — reading into
  columns comes to the end that reading a pattern comes to.
* `acceptsAt?_eq_some`, `accepts?_eq_some` — so does acceptance.
* `columns_in_step` — the columns of a text that is a pattern.
-/

set_option autoImplicit false

namespace Crontab

open Text

variable {f : Field}

/-! ## Conditions of a field -/

/-- Whether a condition has a place in the column of a field: a set of numbers has some, and only
such as the field shows; among days the last one may take their place. -/
inductive Matcher.Fits (f : Field) : Matcher → Prop where
  | always : Fits f .always
  | values {set : ValueSet} (hf : f ≠ .dayOfMonth) (hne : ∃ v, v ∈ set)
    (hrange : ∀ v ∈ set, f.min ≤ v ∧ v ≤ f.top) : Fits f (.values set)
  | dayOfMonth {days : ValueSet} {last : Bool} (hf : f = .dayOfMonth)
    (hne : (∃ v, v ∈ days) ∨ last = true) (hrange : ∀ v ∈ days, f.min ≤ v ∧ v ≤ f.top)
    (hlast : Field.lastDay ∉ days) : Fits f (.dayOfMonth days last)

theorem mem_octets {l : List Nat} {v : Nat} : v ∈ octets l ↔ v < 256 ∧ v ∈ l := by
  rw [octets, List.mem_filter, List.mem_range, List.contains_iff_mem]

/-- What an alias stands for is an octet. -/
theorem aliasValue?_lt {s : List Char} {v : Nat} (h : aliasValue? f s = some v) : v < 256 := by
  obtain ⟨i, a, ha, -, rfl⟩ := aliasValue?_eq_some_iff.1 h
  obtain ⟨hi, -⟩ := List.getElem?_eq_some_iff.1 ha
  have hlength : f.aliases.length ≤ 12 := by cases f <;> decide
  have hmin : f.min ≤ 1 := by cases f <;> decide
  omega

namespace Matcher

section

variable {token : List Char} (hs : ∀ c ∈ token, isBlank c = false)

include hs

theorem fits_of_read {x : Matcher} (h : Matcher.read f token = .ok x) : x.Fits f := by
  rcases read_eq_ok_iff.1 h with ⟨-, rfl⟩ | ⟨-, set, hset, rfl⟩
  · exact .always
  · rw [Field.parse_ofList_eq_ok_iff] at hset
    obtain ⟨⟨v, hv⟩, hholds⟩ := holds_of_readField hs hset
    by_cases hf : f = .dayOfMonth
    · rw [ofField, if_pos hf]
      refine .dayOfMonth hf ?_ (fun w hw => ?_) fun hmem => (ValueSet.mem_erase.1 hmem).2 rfl
      · by_cases hlast : v = Field.lastDay
        · exact .inr (hlast ▸ hv)
        · exact .inl ⟨v, ValueSet.mem_erase.2 ⟨hv, hlast⟩⟩
      · obtain ⟨hw, hne⟩ := ValueSet.mem_erase.1 hw
        exact (hholds w hw).resolve_right fun hlast => hne hlast.2
    · rw [ofField, if_neg hf]
      exact .values hf ⟨v, hv⟩ fun w hw => (hholds w hw).resolve_right fun hlast => hf hlast.1

/-- The values of a token fit into a word, so that reading it in words comes to the same end. -/
theorem read?_eq_some : Matcher.read? f token = some (Matcher.read f token) := by
  unfold read? Matcher.read readField
  split
  · rfl
  · cases hitems : readItems f (piecesAt ',' token) with
    | error e => rfl
    | ok items =>
      have hlegal := legal_of_forall₂
        ((readItems_eq_ok_iff (not_blank_of_mem_pieces hs)).1 hitems)
      have hlt : ∀ v ∈ items.flatMap (Item.members f), v < 64 := by
        intro v hv
        obtain ⟨item, hitem, hv⟩ := List.mem_flatMap.1 hv
        exact Field.lt_of_holds (Item.holds_of_mem_members (hlegal item hitem) hv)
      have hoctets : ∀ v, v ∈ octets (items.flatMap (Item.members f)) ↔
          v ∈ items.flatMap (Item.members f) := by
        intro v
        rw [mem_octets, and_iff_right_iff_imp]
        intro hv
        have := hlt v hv
        omega
      have hword : ∀ v ∈ octets (items.flatMap (Item.members f)), v < 64 :=
        fun v hv => hlt v ((hoctets v).1 hv)
      simp only [ofMembers?_eq_some hword, (ValueSet.ofList_inj hword hlt).2 hoctets]
      rfl

end

end Matcher

/-! ## Reading into columns -/

namespace PatternColumns

variable (c : PatternColumns)

/-- The conditions of a sub-pattern at the ends of the columns. -/
def append (p : SubPattern) : PatternColumns :=
  { ((((((c.push .second p.second).push .minute p.minute).push .hour p.hour).push .dayOfMonth
      p.dayOfMonth).push .month p.month).push .dayOfWeek p.dayOfWeek) with size := c.size + 1 }

/-- The columns of a pattern. -/
def ofPattern (p : Pattern) : PatternColumns :=
  p.alternatives.foldl append (empty p.text)

section

variable {token : List Char} (hs : ∀ c ∈ token, isBlank c = false)

include hs

theorem readToken_eq_some :
    c.readToken f token = some ((Matcher.read f token).map (c.push f)) := by
  rw [readToken, Matcher.read?_eq_some hs]
  cases Matcher.read f token <;> rfl

theorem readToken_bind (k : PatternColumns → Reading PatternColumns) :
    (c.readToken f token >>= k) = match Matcher.read f token with
      | .ok x => k (c.push f x)
      | .error e => some (.error e) := by
  rw [readToken_eq_some c hs]
  cases Matcher.read f token <;> rfl

end

theorem readFrom_eq_some {x : Matcher} {minute hour day month week : List Char}
    (hs : ∀ token ∈ [minute, hour, day, month, week], ∀ c ∈ token, isBlank c = false) :
    (c.push .second x).readFrom minute hour day month week =
      some ((SubPattern.readFrom x minute hour day month week).map c.append) := by
  simp only [List.forall_mem_cons] at hs
  obtain ⟨hminute, hhour, hday, hmonth, hweek, -⟩ := hs
  simp only [readFrom, readToken_bind _ hminute, readToken_bind _ hhour, readToken_bind _ hday,
    readToken_bind _ hmonth, readToken_bind _ hweek, SubPattern.readFrom]
  cases Matcher.read .minute minute with
  | error e => rfl
  | ok minute =>
    cases Matcher.read .hour hour with
    | error e => rfl
    | ok hour =>
      cases Matcher.read .dayOfMonth day with
      | error e => rfl
      | ok day =>
        cases Matcher.read .month month with
        | error e => rfl
        | ok month => cases Matcher.read .dayOfWeek week <;> rfl

theorem readTokens_eq_some {piece : List Char} (tokens : List (List Char))
    (hs : ∀ token ∈ tokens, ∀ c ∈ token, isBlank c = false) :
    c.readTokens piece tokens = some ((SubPattern.ofTokens piece tokens).map c.append) := by
  match tokens with
  | [] | [_] | [_, _] | [_, _, _] | [_, _, _, _] => rfl
  | [_, _, _, _, _] => exact c.readFrom_eq_some hs
  | [second, _, _, _, _, _] =>
    obtain ⟨hsecond, hrest⟩ := List.forall_mem_cons.1 hs
    rw [readTokens, readToken_bind _ hsecond, SubPattern.ofTokens]
    cases Matcher.read .second second with
    | error e => rfl
    | ok x => exact c.readFrom_eq_some hrest
  | [second, minute, hour, day, month, week, _] =>
    obtain ⟨hsecond, hrest⟩ := List.forall_mem_cons.1 hs
    rw [readTokens, readToken_bind _ hsecond, SubPattern.ofTokens]
    cases Matcher.read .second second with
    | error e => rfl
    | ok x =>
      refine c.readFrom_eq_some fun token htoken => hrest token ?_
      exact List.mem_append_left [_] htoken
  | _ :: _ :: _ :: _ :: _ :: _ :: _ :: _ :: _ => rfl

theorem readAll_eq_some (pieces : List (List Char)) :
    c.readAll pieces = some ((SubPattern.readAll pieces).map fun ps => ps.foldl append c) := by
  induction pieces generalizing c with
  | nil => rfl
  | cons piece pieces ih =>
    rw [readAll, List.foldlM_cons,
      readTokens_eq_some c _ fun token htoken => not_blank_of_mem_words htoken, SubPattern.readAll,
      SubPattern.read]
    cases SubPattern.ofTokens (trim piece) (words piece) with
    | error e => rfl
    | ok p =>
      refine (ih (c.append p)).trans ?_
      cases SubPattern.readAll pieces <;> rfl

/-- A text is read into columns as it is read into a pattern. -/
theorem parse?_eq_some (text : String) :
    parse? text = some ((Pattern.parse text).map ofPattern) := by
  unfold parse? Pattern.parse Pattern.read
  rw [readAll_eq_some]
  split
  · rfl
  · cases SubPattern.readAll (piecesAt '|' text.toList) <;> rfl

/-! ## The columns of a pattern -/

theorem foldl_append (ps : List SubPattern) :
    ps.foldl append c = ⟨c.text, c.seconds ++ ps.map (·.second), c.minutes ++ ps.map (·.minute),
      c.hours ++ ps.map (·.hour), c.daysOfMonth ++ ps.map (·.dayOfMonth),
      c.months ++ ps.map (·.month), c.daysOfWeek ++ ps.map (·.dayOfWeek), c.size + ps.length⟩ := by
  induction ps generalizing c with
  | nil => simp
  | cons p ps ih =>
    rw [List.foldl_cons, ih]
    simp [append, push, Nat.add_assoc, Nat.add_comm 1]

theorem ofPattern_eq (p : Pattern) :
    ofPattern p = ⟨p.text, p.matchers .second, p.matchers .minute, p.matchers .hour,
      p.matchers .dayOfMonth, p.matchers .month, p.matchers .dayOfWeek, p.size⟩ := by
  rw [ofPattern, foldl_append]
  simp only [empty, List.nil_append, Nat.zero_add]
  rfl

theorem column_ofPattern (p : Pattern) (f : Field) : (ofPattern p).column f = p.matchers f := by
  rw [ofPattern_eq]
  cases f <;> rfl

/-- An answer of no ends the asking. -/
theorem ite_some_false (b rest : Bool) :
    (if b = true then some rest else some false) = some (b && rest) := by
  cases b <;> rfl

theorem acceptsAt?_eq_some {p : Pattern} {i : Nat} {a : SubPattern}
    (h : p.alternatives[i]? = some a) (m : Moment) (matchSecond : Bool) :
    (ofPattern p).acceptsAt? m matchSecond i = some (a.accepts m matchSecond) := by
  have hplace : ∀ f, (p.matchers f)[i]? = some (a.matcher f) := by
    intro f
    rw [Pattern.matchers, List.getElem?_map, h, Option.map_some]
  simp only [ofPattern_eq, acceptsAt?, hplace, SubPattern.matcher, Matcher.accepts?_eq_some,
    Matcher.acceptsDay?_eq_some, Option.bind_eq_bind, Option.bind_some, Option.pure_def,
    ite_some_false, SubPattern.accepts]
  cases matchSecond <;> simp [Bool.and_assoc]

theorem anyM_eq_some {α : Type} {p : α → Option Bool} {q : α → Bool} {l : List α}
    (h : ∀ x ∈ l, p x = some (q x)) : l.anyM p = some (l.any q) := by
  induction l with
  | nil => rfl
  | cons x l ih =>
    obtain ⟨hx, hl⟩ := List.forall_mem_cons.1 h
    rw [List.anyM, hx, ih hl, List.any_cons]
    cases q x <;> rfl

/-- Asking all places is asking all members. -/
theorem any_range_getElem? {α : Type} (l : List α) (q : α → Bool) :
    ((List.range l.length).any fun i => l[i]?.any q) = l.any q := by
  rw [Bool.eq_iff_iff, List.any_eq_true, List.any_eq_true]
  constructor
  · rintro ⟨i, -, hi⟩
    obtain ⟨x, hx, hq⟩ := (Option.any_eq_true q _).1 hi
    exact ⟨x, List.mem_of_getElem? hx, hq⟩
  · rintro ⟨x, hx, hq⟩
    obtain ⟨i, hi, rfl⟩ := List.getElem_of_mem hx
    refine ⟨i, List.mem_range.2 hi, ?_⟩
    rw [List.getElem?_eq_getElem hi]
    exact hq

theorem accepts?_eq_some (p : Pattern) (m : Moment) (matchSecond : Bool) :
    (ofPattern p).accepts? m matchSecond = some (p.accepts m matchSecond) := by
  have hplaces : ∀ i ∈ List.range p.alternatives.length,
      (ofPattern p).acceptsAt? m matchSecond i =
        some (p.alternatives[i]?.any fun a => a.accepts m matchSecond) := by
    intro i hi
    have hget := List.getElem?_eq_getElem (List.mem_range.1 hi)
    rw [acceptsAt?_eq_some hget, hget]
    rfl
  have hsize : (ofPattern p).size = p.alternatives.length := by
    rw [ofPattern_eq]
    rfl
  rw [accepts?, hsize, anyM_eq_some hplaces, any_range_getElem?]
  rfl

end PatternColumns

theorem SubPattern.fits_of_read {piece : List Char} {p : SubPattern} (h : read piece = .ok p)
    (f : Field) : (p.matcher f).Fits f := by
  obtain ⟨hlen, hfree, hread⟩ := (ofTokens_eq_ok_iff (words piece)).1 h
  rcases exists_fieldToken hlen f with ⟨token, hc⟩ | ⟨h5, rfl⟩
  · exact Matcher.fits_of_read (not_blank_of_mem_words (mem_of_mem_fieldTokens hc)) (hread _ hc)
  · have hsecond : p.matcher .second = .always := hfree h5
    rw [hsecond]
    exact .always

namespace Pattern

variable {text : String} {p : Pattern}

theorem fits_of_parse (h : parse text = .ok p) {x : Matcher} (hx : x ∈ p.matchers f) :
    x.Fits f := by
  obtain ⟨-, -, hread⟩ := parse_eq_ok_iff.1 h
  obtain ⟨a, ha, rfl⟩ := List.mem_map.1 hx
  obtain ⟨piece, -, hpiece⟩ := exists_left_of_forall₂ hread ha
  exact SubPattern.fits_of_read hpiece f

/-- There is one more sub-pattern than there are bars. -/
theorem size_of_parse (h : parse text = .ok p) : p.size = text.toList.count '|' + 1 := by
  obtain ⟨-, -, hread⟩ := parse_eq_ok_iff.1 h
  rw [size, ← hread.length_eq]
  exact length_pieces _ _

/-- **Columns are in step.**  A text that is no pattern is refused by the reading into columns, for
the same reason.  A text that is a pattern is read into columns of one length, one more than there
are bars in the text.  In the column of a field every condition is one that fits there, and is that
of the sub-pattern at its place.  So for every moment, a real date or not, the conditions can be
asked at every place, and the answer is that of the pattern.  Neither reading nor asking shifts a
bit out of a word, and what an alias stands for is an octet. -/
theorem columns_in_step (text : String) :
    (∀ e, parse text = .error e → PatternColumns.parse? text = some (.error e)) ∧
    (∀ p, parse text = .ok p → ∃ c, PatternColumns.parse? text = some (.ok c) ∧
      c.text = p.text ∧ c.size = text.toList.count '|' + 1 ∧
      (∀ f, (c.column f).length = c.size ∧ c.column f = p.matchers f ∧
        ∀ x ∈ c.column f, x.Fits f) ∧
      ∀ m matchSecond, c.accepts? m matchSecond = some (p.accepts m matchSecond)) ∧
    ∀ f s v, aliasValue? f s = some v → v < 256 := by
  refine ⟨fun e he => ?_, fun p hp => ?_, fun f s v => aliasValue?_lt⟩
  · rw [PatternColumns.parse?_eq_some, he]
    rfl
  · have hcolumns : PatternColumns.parse? text = some (.ok (.ofPattern p)) := by
      rw [PatternColumns.parse?_eq_some, hp]
      rfl
    have hsize : (PatternColumns.ofPattern p).size = p.size := by rw [PatternColumns.ofPattern_eq]
    refine ⟨_, hcolumns, ?_, hsize.trans (size_of_parse hp), fun f => ?_,
      PatternColumns.accepts?_eq_some p⟩
    · rw [PatternColumns.ofPattern_eq]
    · rw [PatternColumns.column_ofPattern, hsize]
      exact ⟨length_matchers p f, rfl, fun x hx => fits_of_parse hp hx⟩

/-- Two sub-patterns, one with a second and a year and one without, and the last day of a leap
year's February; a text that is refused for its second piece; and an alias. -/
theorem columns_in_step_of_two :
    (∃ c, PatternColumns.parse? "0 12 L 2 *|30 0 9 1,L * ? 2099" = some (.ok c) ∧ c.size = 2 ∧
      (∀ f, (c.column f).length = c.size ∧ ∀ x ∈ c.column f, x.Fits f) ∧
      c.accepts? ⟨5, 0, 12, 29, 2, 4, 2024, true⟩ true = some true) ∧
    (∃ e, PatternColumns.parse? "* * * * *|61 * * * *" = some (.error e)) ∧
    aliasValue? .month "DEC".toList = some 12 ∧ 12 < 256 := by
  refine ⟨?_, ?_, by decide, ?_⟩
  · obtain ⟨-, h, -⟩ := columns_in_step "0 12 L 2 *|30 0 9 1,L * ? 2099"
    obtain ⟨c, hc, -, hsize, hcolumns, haccepts⟩ := h _ rfl
    exact ⟨c, hc, hsize, fun f => ⟨(hcolumns f).1, (hcolumns f).2.2⟩, haccepts _ _⟩
  · exact ⟨_, (columns_in_step "* * * * *|61 * * * *").1 _ rfl⟩
  · exact (columns_in_step "").2.2 .month "DEC".toList 12 (by decide)

end Pattern

end Crontab
