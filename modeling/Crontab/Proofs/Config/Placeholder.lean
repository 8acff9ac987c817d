import Crontab.Config.Placeholder
import Crontab.Proofs.Text.Pieces

/-!
# What placeholders stand for

Every text is read in one of three ways: as a key with a default, as a key alone, or as itself.
The first colon ends the key and the last brace ends the default, so that a default may hold colons,
braces and whole placeholders.

* `embrace` — the text with a given inside, which `inner?_toList_eq_some_iff` recovers.
* `text_cases` — every text is a key with a default, a key alone, or no placeholder.
* `resolveWith_default` / `resolveWith_key` / `resolveWith_plain` — the answer in each of the three
  cases.
* `default_kept_verbatim` — the three answers for every lookup, and that one key at most is looked
  up, so that no answer is read as a placeholder again.
-/

set_option autoImplicit false

namespace Crontab.Placeholder

open Text

variable {lookup : String → Except ConfigError String} {key s : String}

/-- The text with a given inside, between `${` and `}`. -/
def embrace (inner : String) : String := "$\x7b" ++ inner ++ "\x7d"

@[simp] theorem toList_embrace (inner : String) :
    (embrace inner).toList = '$' :: '\x7b' :: (inner.toList ++ ['\x7d']) := by
  simp [embrace, String.toList_append]

/-- The inside is what stands between the first two characters and the last one. -/
theorem inner?_eq_some_iff {cs i : List Char} :
    inner? cs = some i ↔ cs = '$' :: '\x7b' :: (i ++ ['\x7d']) := by
  constructor
  · intro h
    unfold inner? at h
    split at h
    · next r =>
      split at h
      · next back hr =>
        cases h
        simpa using congrArg List.reverse hr
      · cases h
    · cases h
  · rintro rfl
    simp [inner?]

theorem inner?_toList_eq_some_iff {inner : String} :
    inner? s.toList = some inner.toList ↔ s = embrace inner := by
  rw [inner?_eq_some_iff, ← toList_embrace, String.toList_inj]

theorem inner?_toList_eq_none_iff : inner? s.toList = none ↔ ∀ inner, s ≠ embrace inner := by
  rw [Option.eq_none_iff_forall_ne_some]
  constructor
  · intro h inner hs
    exact h inner.toList (inner?_toList_eq_some_iff.2 hs)
  · intro h i hi
    exact h (String.ofList i) (inner?_toList_eq_some_iff.1 (by rw [hi, String.toList_ofList]))

theorem inner?_embrace (inner : String) : inner? (embrace inner).toList = some inner.toList :=
  inner?_toList_eq_some_iff.2 rfl

/-! ## The three kinds of text -/

/-- Every text is a key with a default, a key alone, or no placeholder. -/
theorem text_cases (s : String) :
    (∃ key default, ':' ∉ key.toList ∧ s = embrace (key ++ ":" ++ default)) ∨
    (∃ key, ':' ∉ key.toList ∧ s = embrace key) ∨
    ∀ inner, s ≠ embrace inner := by
  cases hs : inner? s.toList with
  | none => exact .inr (.inr (inner?_toList_eq_none_iff.1 hs))
  | some i =>
    obtain ⟨inner, rfl⟩ : ∃ inner, i = String.toList inner := ⟨String.ofList i, by simp⟩
    obtain rfl := inner?_toList_eq_some_iff.1 hs
    cases hcut : cut ':' inner.toList with
    | none => exact .inr (.inl ⟨inner, cut_eq_none_iff.1 hcut, rfl⟩)
    | some parts =>
      obtain ⟨key, default⟩ := parts
      obtain ⟨hinner, hkey⟩ := eq_of_cut hcut
      refine .inl ⟨String.ofList key, String.ofList default, by simpa using hkey, ?_⟩
      have : inner = String.ofList key ++ ":" ++ String.ofList default := by
        rw [← String.toList_inj, hinner]
        simp [String.toList_append]
      rw [this]

/-- A key with a default stands for the text at the key, or else for the default; it never fails,
and neither text is looked at. -/
theorem resolveWith_default (hkey : ':' ∉ key.toList) (default : String) :
    resolveWith lookup (embrace (key ++ ":" ++ default)) =
      .ok (match lookup key with
        | .ok v => v
        | .error _ => default) := by
  have hcut : cut ':' (key ++ ":" ++ default).toList = some (key.toList, default.toList) := by
    simpa [String.toList_append] using cut_append_cons hkey default.toList
  simp only [resolveWith, inner?_embrace, hcut, String.ofList_toList]
  cases lookup key <;> rfl

/-- A key alone stands for what the lookup answers. -/
theorem resolveWith_key (hkey : ':' ∉ key.toList) :
    resolveWith lookup (embrace key) = lookup key := by
  simp only [resolveWith, inner?_embrace, cut_eq_none_iff.2 hkey, String.ofList_toList]

/-- Every other text stands for itself. -/
theorem resolveWith_plain (h : ∀ inner, s ≠ embrace inner) : resolveWith lookup s = .ok s := by
  simp only [resolveWith, inner?_toList_eq_none_iff.2 h]

/-- One key at most is looked up, and which one is told by the text alone. -/
theorem exists_key_resolveWith_congr (s : String) :
    ∃ key, ∀ lookup lookup' : String → Except ConfigError String, lookup key = lookup' key →
      resolveWith lookup s = resolveWith lookup' s := by
  obtain ⟨key, default, hkey, rfl⟩ | ⟨key, hkey, rfl⟩ | hplain := text_cases s
  · refine ⟨key, fun lookup lookup' h => ?_⟩
    rw [resolveWith_default hkey, resolveWith_default hkey, h]
  · refine ⟨key, fun lookup lookup' h => ?_⟩
    rw [resolveWith_key hkey, resolveWith_key hkey, h]
  · refine ⟨"", fun lookup lookup' _ => ?_⟩
    rw [resolveWith_plain hplain, resolveWith_plain hplain]

/-- **A placeholder keeps its default as it is written.**  Whatever is looked up where: a key
without a colon and a default, of any characters, stand for the text that is found or else for
exactly that default, and never fail; a key alone stands for what the lookup answers; and every text
that does not start with `${` and end with a later `}` stands for itself.  What is answered is not
read again, since the answer for a text depends on what is found at one key only. -/
theorem default_kept_verbatim :
    (∀ (lookup : String → Except ConfigError String) (key default : String), ':' ∉ key.toList →
      resolveWith lookup ("$\x7b" ++ (key ++ ":" ++ default) ++ "\x7d") =
        .ok (match lookup key with
          | .ok v => v
          | .error _ => default)) ∧
    (∀ (lookup : String → Except ConfigError String) (key : String), ':' ∉ key.toList →
      resolveWith lookup ("$\x7b" ++ key ++ "\x7d") = lookup key) ∧
    (∀ (lookup : String → Except ConfigError String) (s : String),
      (∀ inner, s ≠ "$\x7b" ++ inner ++ "\x7d") → resolveWith lookup s = .ok s) ∧
    ∀ s, ∃ key, ∀ lookup lookup' : String → Except ConfigError String,
      lookup key = lookup' key → resolveWith lookup s = resolveWith lookup' s :=
  ⟨fun _ _ default hkey => resolveWith_default hkey default, fun _ _ hkey => resolveWith_key hkey,
    fun _ _ hplain => resolveWith_plain hplain, exists_key_resolveWith_congr⟩

/-- In a configuration where one text looks like a placeholder, it is answered as it stands, and so
is a default with a colon, a brace and a placeholder of its own. -/
theorem default_kept_verbatim_in_config :
    let config : Config :=
      ⟨.table [("report", .str "$\x7blate:never\x7d"), ("late", .str "0 2 * * *")]⟩
    ':' ∉ "report".toList ∧ ':' ∉ "early".toList ∧
      resolve config "$\x7breport:\x7d" = .ok "$\x7blate:never\x7d" ∧
      resolve config "$\x7breport\x7d" = .ok "$\x7blate:never\x7d" ∧
      resolve config "$\x7bearly:a:\x7d$\x7blate\x7d\x7d" = .ok "a:\x7d$\x7blate\x7d" ∧
      resolve config "$\x7bearly\x7d" = .error (.notFound "early") ∧
      resolve config "$\x7b" = .ok "$\x7b" := by
  intro config
  have hreport : ':' ∉ "report".toList := by decide
  have hearly : ':' ∉ "early".toList := by decide
  have hplain (inner : String) : "$\x7b" ≠ "$\x7b" ++ inner ++ "\x7d" := by
    intro h
    simpa [String.toList_append] using congrArg String.toList h
  obtain ⟨hdefault, halone, hother, -⟩ := default_kept_verbatim
  exact ⟨hreport, hearly, hdefault config.string "report" "" hreport,
    halone config.string "report" hreport,
    hdefault config.string "early" "a:\x7d$\x7blate\x7d" hearly,
    halone config.string "early" hearly, hother config.string "$\x7b" hplain⟩

end Crontab.Placeholder
