import Crontab.Proofs.Calendar.Reading
import Crontab.Proofs.Field.Grammar
import Crontab.Proofs.Pattern.Alternation

/-!
# Wildcards spelled out

A token `*` or `?` is read as a condition that always holds.  Spelled out as steps of one, as a list
with `*` in it or as the range of the field, it is read as a set of numbers, bits and all.  That set
holds every number that a zone's clocks can show in the field, so that no instant tells the one from
the other.

* `Field.SpelledOut`, `Field.TokenAt` — what a wildcard may be spelled out as, and where a token
  stands in a text.
* `Field.parse_of_spelledOut`, `Field.allows_of_spelledOut` — it is read as a set with all numbers
  that can be shown, and so allows every moment of a clock.
* `exists_fieldTokens_eq`, `pieceReadable_spelledOut`, `pieceAllows_spelledOut` — nothing changes for a
  piece when a wildcard in it is spelled out.
* `Pattern.wildcard_spelled_out` — a wildcard and what it is spelled out as match the same instants.
-/

set_option autoImplicit false

namespace Crontab

open Text

/-- What stands in a text after its last bar. -/
def lastPiece (s : List Char) : List Char := (piecesAt '|' s).getLastD []

/-- What stands in a text before its first bar. -/
def firstPiece (s : List Char) : List Char := (piecesAt '|' s).headD []

namespace Field

/-- What a wildcard may be spelled out as. -/
inductive SpelledOut (f : Field) : List Char → Prop where
  | steps : SpelledOut f ['*', '/', '1']
  | range : SpelledOut f ((toString f.min).toList ++ '-' :: (toString f.max).toList)
  /-- A list of `*` and anything else that can be read. -/
  | list {atoms : List (List Char)} (hstar : ['*'] ∈ atoms)
    (hatoms : ∀ a ∈ atoms, (∀ c ∈ a, isBlank c = false) ∧
      ∃ set, f.parse (String.ofList a) = .ok set) : SpelledOut f ([','].intercalate atoms)

/-- Whether what stands between two texts is a whole token that is written for a field.  Nothing but
blanks and bars may stand next to it, and its place among the tokens of its piece tells the field. -/
structure TokenAt (f : Field) (before token after : List Char) : Prop where
  blank_before : ∀ c ∈ (lastPiece before).getLast?, isBlank c = true
  blank_after : ∀ c ∈ (firstPiece after).head?, isBlank c = true
  fieldToken : (fieldTokens (words (lastPiece before) ++ token :: words (firstPiece after)))[
    (words (lastPiece before)).length]? = some (f, token)

variable {f : Field} {full : List Char} {v : Nat}

/-! ## What a wildcard is spelled out as -/

theorem onSteps_one {lo hi : Nat} (htop : v ≤ f.top) (hlo : lo ≤ v) (hhi : v ≤ hi) :
    f.OnSteps lo hi 1 v := by
  refine ⟨v, hlo, hhi, Nat.one_dvd _, ?_⟩
  split
  · rename_i hweek
    obtain ⟨rfl, rfl⟩ := hweek
    cases htop.not_gt (by decide)
  · rfl

/-- Whether a text writes items of which one stands for all numbers that can be shown. -/
def WritesAll (f : Field) (s : List Char) : Prop :=
  (∀ piece ∈ piecesAt ',' s, ∃ item, Item.WrittenAs f item piece) ∧
    ∃ piece ∈ piecesAt ',' s, ∃ item, Item.WrittenAs f item piece ∧
      ∀ v, f.min ≤ v → v ≤ f.top → item.Covers f v

theorem writesAll_of_item {item : Item} {s : List Char} (h : item.WrittenAs f s)
    (hall : ∀ v, f.min ≤ v → v ≤ f.top → item.Covers f v) : f.WritesAll s := by
  have hpieces : piecesAt ',' s = [s] := piecesAt_of_not_mem (not_mem_of_item h rfl (by decide))
  rw [WritesAll, hpieces]
  refine ⟨fun piece hp => ?_, s, List.mem_singleton_self s, item, h, hall⟩
  rw [List.mem_singleton.1 hp]
  exact ⟨item, h⟩

theorem writesAll_of_spelledOut (h : f.SpelledOut full) :
    (∀ c ∈ full, isBlank c = false) ∧ f.WritesAll full := by
  cases h with
  | steps =>
    exact ⟨not_blank_of_all (by decide), writesAll_of_item
      (.stepped .star (isNumeral_toString 1) Nat.one_pos (by decide))
      fun v hmin htop => onSteps_one htop hmin htop⟩
  | range =>
    have hmin : f.Names (toString f.min).toList f.min :=
      ⟨.inl (isNumeral_toString _), Nat.le_refl _, f.min_le_top.trans f.top_le_max⟩
    have hmax : f.Names (toString f.max).toList f.max :=
      ⟨.inl (isNumeral_toString _), f.min_le_top.trans f.top_le_max, Nat.le_refl _⟩
    refine ⟨not_blank_of_all (by cases f <;> decide), writesAll_of_item (.whole (.range hmin hmax hmin.2.2)) ?_⟩
    exact fun v hv htop => onSteps_one htop hv (htop.trans f.top_le_max)
  | list hstar hatoms =>
    rename_i atoms
    have hne : atoms ≠ [] := List.ne_nil_of_mem hstar
    refine ⟨fun c hc => ?_, ?_⟩
    · rcases mem_intercalate hc with rfl | ⟨a, ha, hc⟩
      · decide
      · exact (hatoms a ha).1 c hc
    · rw [WritesAll, piecesAt_intercalate_eq_flatMap hne]
      constructor
      · intro piece hp
        obtain ⟨a, ha, hp⟩ := List.mem_flatMap.1 hp
        obtain ⟨hblank, set, hset⟩ := hatoms a ha
        rw [parse_ofList_eq_ok_iff] at hset
        exact (exists_readField_iff hblank).1 ⟨set, hset⟩ piece hp
      · exact ⟨['*'], List.mem_flatMap.2 ⟨_, hstar, List.mem_singleton_self _⟩, _, .whole .star,
          fun v hmin htop => onSteps_one htop hmin htop⟩

/-- A wildcard that is spelled out is read as a set of all numbers that can be shown. -/
theorem parse_of_spelledOut (h : f.SpelledOut full) :
    ∃ set, f.parse (String.ofList full) = .ok set ∧ ∀ v, f.min ≤ v → v ≤ f.top → v ∈ set := by
  obtain ⟨hblank, hitems, piece, hp, item, hitem, hall⟩ := writesAll_of_spelledOut h
  obtain ⟨set, hset⟩ := (exists_readField_iff hblank).2 hitems
  refine ⟨set, parse_ofList_eq_ok_iff.2 hset, fun v hmin htop => ?_⟩
  exact (mem_readField_iff hblank hset).2 ⟨piece, hp, item, hitem, hall v hmin htop⟩

theorem bar_not_mem_of_spelledOut (h : f.SpelledOut full) : '|' ∉ full := by
  obtain ⟨-, hitems, -⟩ := writesAll_of_spelledOut h
  intro hbar
  obtain ⟨piece, hp, hc⟩ := exists_piece_of_mem (p := (· == ',')) hbar (by decide)
  obtain ⟨item, hitem⟩ := hitems piece hp
  exact not_mem_of_item hitem rfl (by decide) hc

theorem ne_nil_of_spelledOut (h : f.SpelledOut full) : full ≠ [] := by
  rintro rfl
  obtain ⟨-, hitems, -⟩ := writesAll_of_spelledOut h
  obtain ⟨item, hitem⟩ := hitems [] (List.mem_singleton_self [])
  have hread := (Item.read_eq_ok_iff (by simp)).2 hitem
  cases hread

/-- It allows every moment that shows numbers in the ranges of the fields. -/
theorem allows_of_spelledOut (h : f.SpelledOut full) {m : Moment}
    (hmin : f.min ≤ m.value f) (htop : m.value f ≤ f.top) : f.Allows full m := by
  obtain ⟨set, hset, hall⟩ := parse_of_spelledOut h
  refine .inr (.inr ⟨set, hset, ?_⟩)
  unfold Denotes
  split
  · rename_i hday
    subst hday
    exact .inl ⟨hall _ hmin htop, Nat.ne_of_lt (Nat.lt_succ_of_le htop)⟩
  · exact hall _ hmin htop

end Field

/-! ## Pieces in which a token is replaced -/

/-- A token that is written for a field may be replaced among the tokens for fields. -/
theorem exists_fieldTokens_eq {f : Field} {token : List Char} {l r : List (List Char)}
    (h : (fieldTokens (l ++ token :: r))[l.length]? = some (f, token)) :
    ∃ before after, ∀ t, fieldTokens (l ++ t :: r) = before ++ (f, t) :: after := by
  unfold fieldTokens at h ⊢
  have hlen : ∀ t, (l ++ t :: r).length = (l ++ token :: r).length := fun t => by simp
  simp only [hlen]
  generalize (if (l ++ token :: r).length = 5 then Field.all.tail else Field.all) = fields at h ⊢
  have hf : fields[l.length]? = some f := (List.getElem?_zip_eq_some.1 h).1
  obtain ⟨hlt, hget⟩ := List.getElem?_eq_some_iff.1 hf
  refine ⟨(fields.take l.length).zip l, (fields.drop (l.length + 1)).zip r, fun t => ?_⟩
  have hsplit : fields = fields.take l.length ++ f :: fields.drop (l.length + 1) := by
    rw [← hget, List.getElem_cons_drop, List.take_append_drop]
  conv_lhs => rw [hsplit]
  rw [List.zip_append (by simp; omega), List.zip_cons_cons]

/-- What holds of the old token and of the new one need only be asked of the others. -/
theorem forall_fieldTokens_iff {f : Field} {token t : List Char} {l r : List (List Char)}
    {P : Field × List Char → Prop}
    (h : (fieldTokens (l ++ token :: r))[l.length]? = some (f, token)) (hold : P (f, token))
    (hnew : P (f, t)) :
    (∀ c ∈ fieldTokens (l ++ t :: r), P c) ↔ ∀ c ∈ fieldTokens (l ++ token :: r), P c := by
  obtain ⟨before, after, heq⟩ := exists_fieldTokens_eq h
  rw [heq, heq, List.forall_mem_append, List.forall_mem_append, List.forall_mem_cons,
    List.forall_mem_cons]
  simp only [hold, hnew]

section

variable {f : Field} {before token after full : List Char}
  (h : f.TokenAt before token after) (htoken : token = ['*'] ∨ token = ['?'])
  (hfull : f.SpelledOut full)

include h

/-- A text in the place of a token is a word of the piece. -/
theorem words_of_tokenAt {t : List Char} (hne : t ≠ []) (ht : ∀ c ∈ t, isBlank c = false) :
    words (lastPiece before ++ t ++ firstPiece after) =
      words (lastPiece before) ++ t :: words (firstPiece after) :=
  words_append_append hne ht h.blank_before h.blank_after

include htoken

theorem words_of_wildcard :
    words (lastPiece before ++ token ++ firstPiece after) =
      words (lastPiece before) ++ token :: words (firstPiece after) := by
  rcases htoken with rfl | rfl
  · exact words_of_tokenAt h (by decide) (not_blank_of_all (by decide))
  · exact words_of_tokenAt h (by decide) (not_blank_of_all (by decide))

include hfull

theorem pieceReadable_spelledOut :
    PieceReadable (lastPiece before ++ full ++ firstPiece after) ↔
      PieceReadable (lastPiece before ++ token ++ firstPiece after) := by
  have hblank := (Field.writesAll_of_spelledOut hfull).1
  obtain ⟨set, hset, -⟩ := Field.parse_of_spelledOut hfull
  have hadmits : f.Admits token := htoken.imp id .inl
  rw [PieceReadable, PieceReadable, words_of_wildcard h htoken,
    words_of_tokenAt h (Field.ne_nil_of_spelledOut hfull) hblank,
    forall_fieldTokens_iff (P := fun c => c.1.Admits c.2) h.fieldToken hadmits
      (.inr (.inr ⟨set, hset⟩))]
  simp

theorem pieceAllows_spelledOut {m : Moment} (hmin : f.min ≤ m.value f) (htop : m.value f ≤ f.top)
    (matchSecond : Bool) :
    PieceAllows (lastPiece before ++ full ++ firstPiece after) m matchSecond ↔
      PieceAllows (lastPiece before ++ token ++ firstPiece after) m matchSecond := by
  have hblank := (Field.writesAll_of_spelledOut hfull).1
  have hallows : f.Allows token m := htoken.imp id .inl
  rw [PieceAllows, PieceAllows, words_of_wildcard h htoken,
    words_of_tokenAt h (Field.ne_nil_of_spelledOut hfull) hblank]
  exact forall_fieldTokens_iff
    (P := fun c => (c.1 = .second ∧ matchSecond = false) ∨ c.1.Allows c.2 m) h.fieldToken
    (.inr hallows) (.inr (Field.allows_of_spelledOut hfull hmin htop))

end

/-! ## Texts in which a token is replaced -/

namespace Pattern

theorem accepts_iff_exists_piece {text : String} {p : Pattern} (h : parse text = .ok p) (m : Moment)
    (matchSecond : Bool) :
    p.accepts m matchSecond = true ↔
      ∃ piece ∈ piecesAt '|' text.toList, PieceAllows piece m matchSecond := by
  obtain ⟨-, -, hall⟩ := parse_eq_ok_iff.1 h
  rw [accepts, List.any_eq_true]
  exact SubPattern.exists_accepts_of_readAll hall m matchSecond

/-- **A wildcard may be spelled out.**  In a text that is a pattern a token `*` or `?` may be replaced by
`*/1`, by a list of `*` and anything else that can be read in its field, or by the range of the field:
the text is a pattern again, and matches the same instants in every zone, with or without a look at
their seconds. -/
theorem wildcard_spelled_out {f : Field} {before token after full : List Char} {p : Pattern}
    (hplace : f.TokenAt before token after) (htoken : token = ['*'] ∨ token = ['?'])
    (hfull : f.SpelledOut full) (h : parse (String.ofList (before ++ token ++ after)) = .ok p) :
    ∃ q, parse (String.ofList (before ++ full ++ after)) = .ok q ∧
      ∀ zone millis matchSecond,
        q.matchesAt zone millis matchSecond = p.matchesAt zone millis matchSecond := by
  have hbar : '|' ∉ token := by
    rcases htoken with rfl | rfl
    · decide
    · decide
  have hpieces : ∀ t : List Char, '|' ∉ t → piecesAt '|' (before ++ t ++ after) =
      (piecesAt '|' before).dropLast ++ (lastPiece before ++ t ++ firstPiece after) ::
        (piecesAt '|' after).tail := fun t ht => piecesAt_append_append ht before after
  have hold := hpieces token hbar
  have hnew := hpieces full (Field.bar_not_mem_of_spelledOut hfull)
  obtain ⟨q, hq⟩ : ∃ q, parse (String.ofList (before ++ full ++ after)) = .ok q := by
    have hreadable := exists_parse_iff.1 ⟨p, h⟩
    rw [String.toList_ofList, hold] at hreadable
    rw [exists_parse_iff, String.toList_ofList, hnew, List.forall_mem_append, List.forall_mem_cons,
      pieceReadable_spelledOut hplace htoken hfull, ← List.forall_mem_cons, ← List.forall_mem_append]
    exact hreadable
  refine ⟨q, hq, fun zone millis matchSecond => ?_⟩
  unfold matchesAt
  cases hm : zone.moment? millis with
  | none => rfl
  | some m =>
    obtain ⟨hmin, htop⟩ := Zone.value_bounds hm f
    dsimp only
    rw [Bool.eq_iff_iff, accepts_iff_exists_piece h, accepts_iff_exists_piece hq,
      String.toList_ofList, String.toList_ofList, hold, hnew]
    simp only [List.mem_append, List.mem_cons, or_and_right, exists_or, exists_eq_left,
      pieceAllows_spelledOut hplace htoken hfull hmin htop]

/-- A day of the month is spelled out with its last day and some weekly ones in front of a bar. -/
theorem wildcard_spelled_out_among_days :
    ∃ p q, parse "0 12 ? 2 *|30 0 9 1,L * ? 2099" = .ok p ∧
      parse "0 12 L,*,5/7 2 *|30 0 9 1,L * ? 2099" = .ok q ∧ p.alternatives ≠ q.alternatives ∧
      ∀ zone millis matchSecond,
        q.matchesAt zone millis matchSecond = p.matchesAt zone millis matchSecond := by
  have hplace : Field.TokenAt .dayOfMonth "0 12 ".toList ['?'] " 2 *|30 0 9 1,L * ? 2099".toList := by
    refine ⟨fun c hc => ?_, fun c hc => ?_, by decide⟩
    · obtain rfl : ' ' = c := Option.some.inj hc
      rfl
    · obtain rfl : ' ' = c := Option.some.inj hc
      rfl
  have hlist : "L,*,5/7".toList = [','].intercalate [['L'], ['*'], ['5', '/', '7']] := rfl
  have hfull : Field.SpelledOut .dayOfMonth "L,*,5/7".toList := by
    rw [hlist]
    refine .list (by decide) fun a ha => ?_
    simp only [List.mem_cons, List.not_mem_nil, or_false] at ha
    rcases ha with rfl | rfl | rfl
    · exact ⟨not_blank_of_all (by decide), _, rfl⟩
    · exact ⟨not_blank_of_all (by decide), _, rfl⟩
    · exact ⟨not_blank_of_all (by decide), _, rfl⟩
  obtain ⟨q, hq, hsame⟩ := wildcard_spelled_out hplace (.inr rfl) hfull rfl
  refine ⟨_, q, rfl, hq, ?_, hsame⟩
  cases hq
  decide

end Pattern

end Crontab
