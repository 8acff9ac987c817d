import Crontab.Proofs.Attribute.Arguments

/-!
# Names of marked functions

The function that registers a marked one is named after it, with a prefix.  Of an identifier the
prefix makes another identifier, and of two identifiers two different ones.  A raw name keeps its
mark in the middle, where no identifier has one, and so no function of that name can be written.

* `Lexicon` — which texts are identifiers, and which of these are keywords.
* `Lexicon.IsIdentifier`, `Lexicon.FunctionName` — plain and raw names of functions.
* `registrar_injective`, `isIdentifier_registrar_iff` — the names of registrars.
* `registered_or_refused_unless_raw` — a marked function is registered or refused, unless nothing
  else is wrong with it than its raw name.
-/

set_option autoImplicit false

namespace Crontab

/-! ## Identifiers -/

/-- What identifiers are made of, and which of them are keywords. -/
structure Lexicon where
  /-- The characters that may begin an identifier, the underscore apart. -/
  begins : Char → Bool
  /-- The characters that may follow. -/
  follows : Char → Bool
  keyword : String → Bool
  follows_of_begins : ∀ c, begins c → follows c
  follows_of_isLower : ∀ c, c.isLower → follows c
  follows_underscore : follows '_'
  not_follows_hash : follows '#' = false
  /-- No keyword begins with an underscore. -/
  not_keyword_underscore : ∀ s, s.toList.head? = some '_' → keyword s = false

namespace Lexicon

variable {L : Lexicon}

/-- The spelling of an identifier, keywords included: the underscore alone is none. -/
inductive Spells (L : Lexicon) : List Char → Prop where
  | letter {c : Char} {cs : List Char} (hc : L.begins c) (hcs : ∀ d ∈ cs, L.follows d) :
    Spells L (c :: cs)
  | underscore {cs : List Char} (hne : cs ≠ []) (hcs : ∀ d ∈ cs, L.follows d) :
    Spells L ('_' :: cs)

/-- An identifier that is no keyword. -/
structure IsIdentifier (L : Lexicon) (name : String) : Prop where
  spells : L.Spells name.toList
  notKeyword : L.keyword name = false

/-- The names that a function may have: an identifier, or the mark of raw names and an identifier
or a keyword, but for those that are the beginnings of paths. -/
inductive FunctionName (L : Lexicon) : String → Prop where
  | plain {name : String} (h : L.IsIdentifier name) : FunctionName L name
  | raw {name : String} (h : L.Spells name.toList)
    (hpath : name ∉ ["crate", "self", "super", "Self"]) : FunctionName L ("r#" ++ name)

theorem Spells.forall_follows {cs : List Char} (h : L.Spells cs) : ∀ c ∈ cs, L.follows c := by
  cases h with
  | letter hc hcs => exact List.forall_mem_cons.2 ⟨L.follows_of_begins _ hc, hcs⟩
  | underscore _ hcs => exact List.forall_mem_cons.2 ⟨L.follows_underscore, hcs⟩

theorem Spells.hash_notMem {cs : List Char} (h : L.Spells cs) : '#' ∉ cs := by
  intro hmem
  have hfollows := h.forall_follows _ hmem
  rw [L.not_follows_hash] at hfollows
  cases hfollows

theorem Spells.append {cs ds : List Char} (h : L.Spells cs) (hds : ∀ d ∈ ds, L.follows d) :
    L.Spells (cs ++ ds) := by
  cases h with
  | letter hc hcs => exact .letter hc (List.forall_mem_append.2 ⟨hcs, hds⟩)
  | underscore hne hcs =>
    exact .underscore (List.append_ne_nil_of_left_ne_nil hne ds)
      (List.forall_mem_append.2 ⟨hcs, hds⟩)

/-- The keywords of the language, those that are only reserved included. -/
def keywords : List String :=
  ["abstract", "as", "async", "await", "become", "box", "break", "const", "continue", "crate", "do",
    "dyn", "else", "enum", "extern", "false", "final", "fn", "for", "if", "impl", "in", "let",
    "loop", "macro", "match", "mod", "move", "mut", "override", "priv", "pub", "ref", "return",
    "self", "Self", "static", "struct", "super", "trait", "true", "try", "type", "typeof", "unsafe",
    "unsized", "use", "virtual", "where", "while", "yield"]

theorem head?_ne_underscore_of_mem_keywords : ∀ word ∈ keywords, word.toList.head? ≠ some '_' := by
  decide

/-- The identifiers of ASCII letters and digits. -/
def ascii : Lexicon where
  begins := Char.isAlpha
  follows c := c.isAlphanum || c == '_'
  keyword name := name ∈ keywords
  follows_of_begins c h := by simp [Char.isAlphanum, h]
  follows_of_isLower c h := by
    have hletter : c.isAlpha = true := Bool.or_eq_true_iff.2 (.inr h)
    simp [Char.isAlphanum, hletter]
  follows_underscore := rfl
  not_follows_hash := rfl
  not_keyword_underscore s h := by
    rw [decide_eq_false_iff_not]
    exact fun hmem => head?_ne_underscore_of_mem_keywords s hmem h

theorem ascii_functionName_raw_match : ascii.FunctionName "r#match" := by
  have hspells : ascii.Spells "match".toList := .letter rfl (List.all_eq_true.1 rfl)
  exact .raw hspells (by decide)

end Lexicon

namespace Attribute

variable {L : Lexicon} {name : String}

theorem hash_mem_of_isRaw (h : isRaw name = true) : '#' ∈ name.toList := by
  obtain ⟨rest, hrest⟩ := List.isPrefixOf_iff_prefix.1 h
  rw [← hrest]
  exact List.mem_append_left _ (by simp)

theorem isRaw_append (name : String) : isRaw ("r#" ++ name) = true := by
  rw [isRaw, List.isPrefixOf_iff_prefix, String.toList_append]
  exact List.prefix_append _ _

/-! ## Names of registrars -/

theorem toList_registrar (name : String) :
    (registrar name).toList = "__cronus_register_".toList ++ name.toList :=
  String.toList_append

theorem registrar_injective : Function.Injective registrar := by
  intro first second h
  have hchars := congrArg String.toList h
  rw [toList_registrar, toList_registrar, List.append_right_inj] at hchars
  exact String.toList_injective hchars

theorem spells_beginning (L : Lexicon) : L.Spells "__cronus_register_".toList := by
  have hletters : ∀ c ∈ "_cronus_register_".toList, c = '_' ∨ c.isLower := by simp
  have hfollows : ∀ c ∈ "_cronus_register_".toList, L.follows c := by
    intro c hc
    rcases hletters c hc with rfl | hlower
    · exact L.follows_underscore
    · exact L.follows_of_isLower c hlower
  have hsplit : "__cronus_register_".toList = '_' :: "_cronus_register_".toList := by simp
  rw [hsplit]
  exact .underscore (by simp) hfollows

theorem isIdentifier_registrar (h : L.Spells name.toList) : L.IsIdentifier (registrar name) where
  spells := by
    rw [toList_registrar]
    exact (spells_beginning L).append h.forall_follows
  notKeyword := L.not_keyword_underscore _ (by simp [toList_registrar])

theorem not_isIdentifier_registrar_of_isRaw (h : isRaw name = true) :
    ¬ L.IsIdentifier (registrar name) := by
  intro hidentifier
  refine hidentifier.spells.hash_notMem ?_
  rw [toList_registrar]
  exact List.mem_append_right _ (hash_mem_of_isRaw h)

/-- Of the names that a function may have, the raw ones have no registrar. -/
theorem isIdentifier_registrar_iff (h : L.FunctionName name) :
    L.IsIdentifier (registrar name) ↔ isRaw name = false := by
  cases h with
  | plain hname =>
    refine iff_of_true (isIdentifier_registrar hname.spells) ?_
    rw [← Bool.not_eq_true]
    exact fun hraw => hname.spells.hash_notMem (hash_mem_of_isRaw hraw)
  | raw =>
    rw [isRaw_append]
    exact iff_of_false (not_isIdentifier_registrar_of_isRaw (isRaw_append _)) (by decide)

/-! ## Marked functions -/

section

variable {arguments : List Argument} {f : MarkedFunction} {path : String}

theorem expand_eq_aborted_iff {n : String} :
    expand arguments f path = .aborted n ↔
      isRaw f.name = true ∧ Accepts arguments f ∧ n = registrar f.name := by
  constructor
  · intro h
    rcases expand_cases arguments f path with
      ⟨-, -, pattern, -, hx⟩ | ⟨haccepts, hraw, hx⟩ | ⟨e, -, hx⟩
    · cases h.symm.trans hx
    · cases h.symm.trans hx
      exact ⟨hraw, haccepts, rfl⟩
    · cases h.symm.trans hx
  · rintro ⟨hraw, haccepts, rfl⟩
    obtain ⟨pattern, -, hx⟩ := expand_of_accepts haccepts path
    rw [hx, if_pos hraw]

theorem registrar_of_registered {r : AttributeRegistration}
    (h : expand arguments f path = .registered r) :
    isRaw f.name = false ∧ r.registrar = registrar f.name := by
  rcases expand_cases arguments f path with ⟨-, hraw, pattern, -, hx⟩ | ⟨-, -, hx⟩ | ⟨e, -, hx⟩
  · cases h.symm.trans hx
    exact ⟨hraw, rfl⟩
  · cases h.symm.trans hx
  · cases h.symm.trans hx

end

/-- **A marked function is registered or refused, unless nothing else is wrong with it than its raw
name.**  Then the expansion breaks down, on a name that is no identifier.  A registrar is named by
an identifier that tells it from the registrars of all functions with other names. -/
theorem registered_or_refused_unless_raw {f : MarkedFunction} (hname : L.FunctionName f.name)
    (arguments : List Argument) (path : String) :
    let x := expand arguments f path
    (((∃ r, x = .registered r) ∨ ∃ e, x = .refused e) ↔
      ¬ (isRaw f.name = true ∧ Accepts arguments f)) ∧
    (∀ n, x = .aborted n → n = registrar f.name ∧ ¬ L.IsIdentifier n) ∧
    ∀ r, x = .registered r → L.IsIdentifier r.registrar ∧
      ∀ (g : MarkedFunction) (others : List Argument) (elsewhere : String)
        (s : AttributeRegistration), g.name ≠ f.name →
        expand others g elsewhere = .registered s → s.registrar ≠ r.registrar := by
  intro x
  refine ⟨?_, ?_, ?_⟩
  · have hends : ((∃ r, x = .registered r) ∨ ∃ e, x = .refused e) ↔ ∀ n, x ≠ .aborted n := by
      cases x <;> simp
    rw [hends]
    constructor
    · rintro h ⟨hraw, haccepts⟩
      exact h _ (expand_eq_aborted_iff.2 ⟨hraw, haccepts, rfl⟩)
    · intro h n hn
      obtain ⟨hraw, haccepts, -⟩ := expand_eq_aborted_iff.1 hn
      exact h ⟨hraw, haccepts⟩
  · intro n hn
    obtain ⟨hraw, -, rfl⟩ := expand_eq_aborted_iff.1 hn
    exact ⟨rfl, not_isIdentifier_registrar_of_isRaw hraw⟩
  · intro r hr
    obtain ⟨hraw, hregistrar⟩ := registrar_of_registered hr
    rw [hregistrar]
    refine ⟨(isIdentifier_registrar_iff hname).2 hraw, ?_⟩
    intro g others elsewhere s hne hs
    rw [(registrar_of_registered hs).2]
    exact registrar_injective.ne hne

/-- Two plain names and their registrars, and a raw name in a marked function that is refused. -/
theorem registered_or_refused_unless_raw_at_job :
    (∃ r s, expand [.pair (some "cron") (.text "* * * * *")] ⟨"job", false, 0, 0⟩ =
        .registered r ∧
      expand [.pair (some "cron") (.text "* * * * *")] ⟨"job_", false, 0, 0⟩ = .registered s ∧
      Lexicon.ascii.IsIdentifier r.registrar ∧ s.registrar ≠ r.registrar) ∧
    ∃ e, expand [.bare] ⟨"r#match", false, 0, 0⟩ = .refused e := by
  have hspells : Lexicon.ascii.Spells "job".toList := .letter rfl (List.all_eq_true.1 rfl)
  have hjob : Lexicon.ascii.FunctionName "job" := .plain ⟨hspells, by decide⟩
  refine ⟨⟨_, _, rfl, rfl, ?_, ?_⟩, ?_⟩
  · obtain ⟨-, -, h⟩ := registered_or_refused_unless_raw (f := ⟨"job", false, 0, 0⟩) hjob
      [.pair (some "cron") (.text "* * * * *")] "<module>"
    exact (h _ rfl).1
  · obtain ⟨-, -, h⟩ := registered_or_refused_unless_raw (f := ⟨"job", false, 0, 0⟩) hjob
      [.pair (some "cron") (.text "* * * * *")] "<module>"
    exact (h _ rfl).2 ⟨"job_", false, 0, 0⟩ [.pair (some "cron") (.text "* * * * *")] "<module>" _
      (by decide) rfl
  · obtain ⟨h, -⟩ := registered_or_refused_unless_raw (f := ⟨"r#match", false, 0, 0⟩)
      Lexicon.ascii_functionName_raw_match [.bare] "<module>"
    rcases h.2 (fun h => nomatch h.2.documented _ (.head _)) with ⟨r, hr⟩ | hrefused
    · exact nomatch hr
    · exact hrefused

/-- A function whose name is the raw `match` has all that a marked function needs, and is neither
registered nor refused. -/
theorem raw_match_aborts :
    Lexicon.ascii.FunctionName "r#match" ∧
      expand [.pair (some "cron") (.text "* * * * *")] ⟨"r#match", false, 0, 0⟩ =
        .aborted "__cronus_register_r#match" ∧
      ¬ Lexicon.ascii.IsIdentifier "__cronus_register_r#match" ∧
      ¬ ((∃ r, expand [.pair (some "cron") (.text "* * * * *")] ⟨"r#match", false, 0, 0⟩ =
          .registered r) ∨
        ∃ e, expand [.pair (some "cron") (.text "* * * * *")] ⟨"r#match", false, 0, 0⟩ =
          .refused e) := by
  refine ⟨Lexicon.ascii_functionName_raw_match, rfl, ?_, ?_⟩
  · have hraw : isRaw "r#match" = true := rfl
    exact not_isIdentifier_registrar_of_isRaw hraw
  · rintro (⟨r, hr⟩ | ⟨e, he⟩)
    · cases hr
    · cases he

end Attribute

end Crontab
