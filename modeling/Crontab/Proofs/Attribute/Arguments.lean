import Crontab.Attribute
import Crontab.Proofs.Field.Faults
import Crontab.Proofs.LastGiven

/-!
# What the attribute accepts

A marked function must be plain: neither `async` nor generic, and without parameters.  Each argument
must give a text for `cron`, `id` or `enabled`, or a switch for `enabled`, and one of them the
pattern.  Of arguments with one name the last counts.  Everything else is refused for the first
fault: those of the function in their order, then those of the arguments from left to right, and
last that there is no pattern.

* `Argument.value?` — what an argument gives for a name.
* `Argument.Documented`, `Argument.Fault` — that an argument is one of these, or what is wrong with
  it.
* `readArgument_of_documented`, `refusedWith_readArgument_iff` — one argument.
* `readArguments_of_documented`, `refusedWith_readArguments_iff` — all of them.
* `Accepts`, `MarkFault` — that a function may be marked so, or why not.
* `expand_cases` — what can become of a marked function.
* `expand_documented` — a marked function without a raw name.
-/

set_option autoImplicit false

namespace Crontab

/-! ## Arguments -/

namespace Argument

/-- What an argument gives for a name: its text, or the word for its switch, which `enabled` alone
may have. -/
def value? (name : String) : Argument → Option String
  | .pair (some n) (.text s) => if n = name then some s else none
  | .pair (some n) (.bool b) => if n = name ∧ n = "enabled" then some (toString b) else none
  | _ => none

/-- The arguments that there are: a text for `cron`, `id` or `enabled`, and a switch for
`enabled`. -/
inductive Documented : Argument → Prop where
  | text {name : String} (h : name ∈ ["cron", "id", "enabled"]) (s : String) :
    Documented (.pair (some name) (.text s))
  | switch (b : Bool) : Documented (.pair (some "enabled") (.bool b))

/-- What is wrong with another argument.  A name of several parts is quoted as no name at all. -/
inductive Fault : Argument → String → Prop where
  | bare : Fault .bare "expected `name = value`"
  | notText {name : String} {v : ArgumentValue} (hname : name = "cron" ∨ name = "id")
    (hv : ∀ s, v ≠ .text s) : Fault (.pair (some name) v) ("`" ++ name ++ "` must be a string")
  | notSwitch : Fault (.pair (some "enabled") .other) "`enabled` must be a bool or string"
  | unknown {name : Option String} {v : ArgumentValue}
    (hname : name ≠ some "cron" ∧ name ≠ some "id" ∧ name ≠ some "enabled") :
    Fault (.pair name v)
      ("unknown argument `" ++ name.getD "" ++ "`, expected cron, id or enabled")

theorem documented_or_fault (a : Argument) : a.Documented ∨ ∃ reason, a.Fault reason := by
  cases a with
  | bare => exact .inr ⟨_, .bare⟩
  | pair name v =>
    by_cases htext : name = some "cron" ∨ name = some "id"
    · obtain ⟨n, rfl, hn⟩ : ∃ n, name = some n ∧ (n = "cron" ∨ n = "id") := by
        rcases htext with rfl | rfl <;> exact ⟨_, rfl, by simp⟩
      cases v with
      | text s => exact .inl (.text (by rcases hn with rfl | rfl <;> simp) s)
      | bool b => exact .inr ⟨_, .notText hn (by simp)⟩
      | other => exact .inr ⟨_, .notText hn (by simp)⟩
    · by_cases henabled : name = some "enabled"
      · subst henabled
        cases v with
        | text s => exact .inl (.text (by simp) s)
        | bool b => exact .inl (.switch b)
        | other => exact .inr ⟨_, .notSwitch⟩
      · rw [not_or] at htext
        exact .inr ⟨_, .unknown ⟨htext.1, htext.2, henabled⟩⟩

end Argument

namespace Attribute

variable {a : Argument} {arguments : List Argument} {reason : String}

/-- An argument adds what it gives, and nothing else. -/
theorem readArgument_of_documented (h : a.Documented) (before : AttributeArguments) :
    readArgument before a = .ok
      { pattern := (a.value? "cron").or before.pattern
        id := (a.value? "id").or before.id
        enabled := (a.value? "enabled").or before.enabled } := by
  cases h with
  | text hname s =>
    simp only [List.mem_cons, List.not_mem_nil, or_false] at hname
    rcases hname with rfl | rfl | rfl <;> simp [readArgument, Argument.value?]
  | switch b => cases b <;> simp [readArgument, Argument.value?] <;> rfl

theorem refusedWith_of_fault (h : a.Fault reason) (before : AttributeArguments) :
    RefusedWith AttributeError.message (readArgument before a) reason := by
  cases h with
  | bare => exact ⟨.notPair, rfl, rfl⟩
  | notText hname hv =>
    rename_i v
    cases v with
    | text s => exact absurd rfl (hv s)
    | bool b => rcases hname with rfl | rfl <;> exact ⟨.notText _, by simp [readArgument], rfl⟩
    | other => rcases hname with rfl | rfl <;> exact ⟨.notText _, by simp [readArgument], rfl⟩
  | notSwitch => exact ⟨.notSwitch, by simp [readArgument], rfl⟩
  | unknown hname => exact ⟨.unknown _, by simp [readArgument, hname], rfl⟩

theorem exists_readArgument_iff {before : AttributeArguments} :
    (∃ b, readArgument before a = .ok b) ↔ a.Documented := by
  constructor
  · rintro ⟨b, h⟩
    rcases a.documented_or_fault with hd | ⟨reason, hf⟩
    · exact hd
    · obtain ⟨e, he, -⟩ := refusedWith_of_fault hf before
      cases he.symm.trans h
  · intro h
    exact ⟨_, readArgument_of_documented h before⟩

theorem refusedWith_readArgument_iff {before : AttributeArguments} :
    RefusedWith AttributeError.message (readArgument before a) reason ↔ a.Fault reason := by
  constructor
  · rintro ⟨e, h, rfl⟩
    rcases a.documented_or_fault with hd | ⟨reason, hf⟩
    · cases (readArgument_of_documented hd before).symm.trans h
    · obtain ⟨e', he', rfl⟩ := refusedWith_of_fault hf before
      cases he'.symm.trans h
      exact hf
  · intro h
    exact refusedWith_of_fault h before

/-! ## Lists of arguments -/

theorem readArguments_cons (before : AttributeArguments) (a : Argument) (rest : List Argument) :
    readArguments before (a :: rest) =
      readArgument before a >>= fun b => readArguments b rest := by
  rw [readArguments]
  cases readArgument before a <;> rfl

/-- Of arguments with one name the last counts. -/
theorem readArguments_of_documented (h : ∀ a ∈ arguments, a.Documented)
    (before : AttributeArguments) :
    readArguments before arguments = .ok
      { pattern := (lastGiven (Argument.value? "cron") arguments).or before.pattern
        id := (lastGiven (Argument.value? "id") arguments).or before.id
        enabled := (lastGiven (Argument.value? "enabled") arguments).or before.enabled } := by
  induction arguments generalizing before with
  | nil => rfl
  | cons a rest ih =>
    obtain ⟨ha, hrest⟩ := List.forall_mem_cons.1 h
    rw [readArguments_cons, readArgument_of_documented ha]
    simp only [ih hrest, lastGiven_cons, Option.or_assoc]
    rfl

theorem documented_or_firstFault (arguments : List Argument) :
    (∀ a ∈ arguments, a.Documented) ∨
      ∃ reason, FirstFault Argument.Documented Argument.Fault arguments reason := by
  induction arguments with
  | nil => exact .inl (List.forall_mem_nil _)
  | cons a rest ih =>
    rcases a.documented_or_fault with ha | ⟨reason, ha⟩
    · rcases ih with hrest | ⟨reason, hrest⟩
      · exact .inl (List.forall_mem_cons.2 ⟨ha, hrest⟩)
      · exact .inr ⟨reason, firstFault_cons.2 (.inr ⟨ha, hrest⟩)⟩
    · exact .inr ⟨reason, firstFault_cons.2 (.inl ha)⟩

/-- Arguments are refused for the first fault among them. -/
theorem refusedWith_readArguments_iff {before : AttributeArguments} :
    RefusedWith AttributeError.message (readArguments before arguments) reason ↔
      FirstFault Argument.Documented Argument.Fault arguments reason := by
  induction arguments generalizing before with
  | nil => exact iff_of_false not_refusedWith_ok not_firstFault_nil
  | cons a rest ih =>
    rw [readArguments_cons, refusedWith_bind_iff, firstFault_cons, refusedWith_readArgument_iff]
    simp only [ih, exists_and_right, exists_readArgument_iff]

end Attribute

/-! ## Marked functions -/

/-- A plain function: neither `async` nor generic, and without parameters. -/
structure MarkedFunction.Plain (f : MarkedFunction) : Prop where
  notAsync : f.isAsync = false
  noParameters : f.parameters = 0
  noGenerics : f.generics = 0

/-- A function may be marked with these arguments: it is plain, each argument is one that there is,
and one of them gives the pattern. -/
structure Accepts (arguments : List Argument) (f : MarkedFunction) : Prop where
  plain : f.Plain
  documented : ∀ a ∈ arguments, a.Documented
  pattern : ∃ a ∈ arguments, ∃ s, a.value? "cron" = some s

/-- The fault of a function that may not be marked with these arguments, in the order in which
faults count. -/
inductive MarkFault (arguments : List Argument) (f : MarkedFunction) : String → Prop where
  | isAsync (h : f.isAsync = true) : MarkFault arguments f
    "#[scheduled] functions run on the blocking pool and must not be async"
  | hasParameters (hasync : f.isAsync = false) (h : f.parameters ≠ 0) : MarkFault arguments f
    "#[scheduled] functions take no arguments"
  | isGeneric (hasync : f.isAsync = false) (hparameters : f.parameters = 0) (h : f.generics ≠ 0) :
    MarkFault arguments f "#[scheduled] functions cannot be generic"
  | argument {reason : String} (hplain : f.Plain)
    (h : FirstFault Argument.Documented Argument.Fault arguments reason) :
    MarkFault arguments f reason
  | missingPattern (hplain : f.Plain) (hdocumented : ∀ a ∈ arguments, a.Documented)
    (h : ∀ a ∈ arguments, a.value? "cron" = none) :
    MarkFault arguments f "#[scheduled] requires a `cron = \"...\"` pattern"

namespace Attribute

variable {arguments : List Argument} {f : MarkedFunction} {reason : String}

/-- What becomes of a function that may be marked so is decided by its name alone. -/
theorem expand_of_accepts (h : Accepts arguments f) (path : String) :
    ∃ pattern, lastGiven (Argument.value? "cron") arguments = some pattern ∧
      expand arguments f path =
        if isRaw f.name then .aborted (registrar f.name)
        else .registered
          { id := (lastGiven (Argument.value? "id") arguments).getD (defaultId f.name path)
            pattern
            enabled := (lastGiven (Argument.value? "enabled") arguments).getD "true"
            registrar := registrar f.name } := by
  cases hpattern : lastGiven (Argument.value? "cron") arguments with
  | none =>
    obtain ⟨a, ha, s, hs⟩ := h.pattern
    rw [lastGiven_eq_none_iff.1 hpattern a ha] at hs
    cases hs
  | some pattern =>
    refine ⟨pattern, rfl, ?_⟩
    simp [expand, h.plain.notAsync, h.plain.noParameters, h.plain.noGenerics,
      readArguments_of_documented h.documented, hpattern]

theorem refused_of_markFault (h : MarkFault arguments f reason) (path : String) :
    ∃ e, expand arguments f path = .refused e ∧ e.message = reason := by
  cases h with
  | isAsync h => exact ⟨.isAsync, by simp [expand, h], rfl⟩
  | hasParameters hasync h => exact ⟨.hasParameters, by simp [expand, hasync, h], rfl⟩
  | isGeneric hasync hparameters h =>
    exact ⟨.isGeneric, by simp [expand, hasync, hparameters, h], rfl⟩
  | argument hplain h =>
    obtain ⟨e, he, hmessage⟩ : RefusedWith AttributeError.message (readArguments {} arguments)
        reason := refusedWith_readArguments_iff.2 h
    refine ⟨e, ?_, hmessage⟩
    simp [expand, hplain.notAsync, hplain.noParameters, hplain.noGenerics, he]
  | missingPattern hplain hdocumented h =>
    refine ⟨.missingPattern, ?_, rfl⟩
    simp [expand, hplain.notAsync, hplain.noParameters, hplain.noGenerics,
      readArguments_of_documented hdocumented, lastGiven_eq_none_iff.2 h]

theorem accepts_or_markFault (arguments : List Argument) (f : MarkedFunction) :
    Accepts arguments f ∨ ∃ reason, MarkFault arguments f reason := by
  cases hasync : f.isAsync with
  | true => exact .inr ⟨_, .isAsync hasync⟩
  | false =>
    by_cases hparameters : f.parameters = 0
    · by_cases hgenerics : f.generics = 0
      · have hplain : f.Plain := ⟨hasync, hparameters, hgenerics⟩
        rcases documented_or_firstFault arguments with hdocumented | ⟨reason, h⟩
        · by_cases hpattern : ∃ a ∈ arguments, ∃ s, a.value? "cron" = some s
          · exact .inl ⟨hplain, hdocumented, hpattern⟩
          · refine .inr ⟨_, .missingPattern hplain hdocumented fun a ha => ?_⟩
            rw [Option.eq_none_iff_forall_ne_some]
            exact fun s hs => hpattern ⟨a, ha, s, hs⟩
        · exact .inr ⟨reason, .argument hplain h⟩
      · exact .inr ⟨_, .isGeneric hasync hparameters hgenerics⟩
    · exact .inr ⟨_, .hasParameters hasync hparameters⟩

/-- A marked function is registered, or has all that it needs but a name that is not raw, or is
refused for its first fault. -/
theorem expand_cases (arguments : List Argument) (f : MarkedFunction) (path : String) :
    (Accepts arguments f ∧ isRaw f.name = false ∧
      ∃ pattern, lastGiven (Argument.value? "cron") arguments = some pattern ∧
        expand arguments f path = .registered
          { id := (lastGiven (Argument.value? "id") arguments).getD (defaultId f.name path)
            pattern
            enabled := (lastGiven (Argument.value? "enabled") arguments).getD "true"
            registrar := registrar f.name }) ∨
    (Accepts arguments f ∧ isRaw f.name = true ∧
      expand arguments f path = .aborted (registrar f.name)) ∨
    ∃ e, MarkFault arguments f e.message ∧ expand arguments f path = .refused e := by
  rcases accepts_or_markFault arguments f with haccepts | ⟨reason, hfault⟩
  · obtain ⟨pattern, hpattern, hexpand⟩ := expand_of_accepts haccepts path
    cases hraw : isRaw f.name with
    | false =>
      rw [hraw] at hexpand
      exact .inl ⟨haccepts, rfl, pattern, hpattern, hexpand⟩
    | true =>
      rw [hraw] at hexpand
      exact .inr (.inl ⟨haccepts, rfl, hexpand⟩)
  · obtain ⟨e, hexpand, rfl⟩ := refused_of_markFault hfault path
    exact .inr (.inr ⟨e, hfault, hexpand⟩)

theorem refused_iff {path : String} :
    (∃ e, expand arguments f path = .refused e ∧ e.message = reason) ↔
      MarkFault arguments f reason := by
  constructor
  · rintro ⟨e, he, rfl⟩
    rcases expand_cases arguments f path with ⟨-, -, pattern, -, h⟩ | ⟨-, -, h⟩ | ⟨e', hfault, h⟩
    · cases he.symm.trans h
    · cases he.symm.trans h
    · cases he.symm.trans h
      exact hfault
  · intro h
    exact refused_of_markFault h path

/-- **The attribute accepts what is documented and nothing else.**  A function whose name is not raw
gets a registration if and only if it is plain, each argument is a text for `cron`, `id` or
`enabled` or a switch for `enabled`, and one of them gives the pattern.  The registration has the
pattern given last; the id given last, or else the path of the module and the name of the function;
and the last word on whether it is enabled, or else `true`.  The function itself stays as it was,
with its registrar behind it.  Otherwise the function is refused in the words of its first fault. -/
theorem expand_documented {β : Type} {f : MarkedItem β} (hname : isRaw f.head.name = false)
    (arguments : List Argument) (path : String) :
    let x := expand arguments f.head path
    ((∃ r, x = .registered r) ↔
      (f.head.isAsync = false ∧ f.head.parameters = 0 ∧ f.head.generics = 0) ∧
        (∀ a ∈ arguments, a.Documented) ∧ ∃ a ∈ arguments, ∃ s, a.value? "cron" = some s) ∧
    (∀ r, x = .registered r →
      lastGiven (Argument.value? "cron") arguments = some r.pattern ∧
      r.id = (lastGiven (Argument.value? "id") arguments).getD (path ++ "::" ++ f.head.name) ∧
      r.enabled = (lastGiven (Argument.value? "enabled") arguments).getD "true" ∧
      x.items f = [.function f, .registrar r f.head.name]) ∧
    ((¬ ∃ r, x = .registered r) →
      ∃ e, x = .refused e ∧ MarkFault arguments f.head e.message) ∧
    ∀ reason, (∃ e, x = .refused e ∧ e.message = reason) ↔ MarkFault arguments f.head reason := by
  intro x
  have hcases := expand_cases arguments f.head path
  refine ⟨⟨?_, ?_⟩, ?_, ?_, fun reason => refused_iff⟩
  · rintro ⟨r, hr⟩
    rcases hcases with ⟨h, -⟩ | ⟨-, hraw, -⟩ | ⟨e, -, hx⟩
    · exact ⟨⟨h.plain.notAsync, h.plain.noParameters, h.plain.noGenerics⟩, h.documented, h.pattern⟩
    · cases hname.symm.trans hraw
    · cases hr.symm.trans hx
  · rintro ⟨⟨hasync, hparameters, hgenerics⟩, hdocumented, hpattern⟩
    obtain ⟨pattern, -, hx⟩ :=
      expand_of_accepts ⟨⟨hasync, hparameters, hgenerics⟩, hdocumented, hpattern⟩ path
    rw [hname] at hx
    exact ⟨_, hx⟩
  · intro r hr
    rcases hcases with ⟨-, -, pattern, hpattern, hx⟩ | ⟨-, hraw, -⟩ | ⟨e, -, hx⟩
    · cases hr.symm.trans hx
      rw [hr]
      exact ⟨hpattern, rfl, rfl, rfl⟩
    · cases hname.symm.trans hraw
    · cases hr.symm.trans hx
  · intro h
    rcases hcases with ⟨-, -, pattern, -, hx⟩ | ⟨-, hraw, -⟩ | ⟨e, hfault, hx⟩
    · exact absurd ⟨_, hx⟩ h
    · cases hname.symm.trans hraw
    · exact ⟨e, hx, hfault⟩

/-- Of two patterns, two ids and two switches the last ones count, in whatever order they stand; and
an `async` function is told so before its arguments are looked at. -/
theorem expand_documented_given_twice :
    (∃ r, expand
        [.pair (some "enabled") (.text "$\x7bJOB\x7d"), .pair (some "cron") (.text "never"),
          .pair (some "id") (.text "old"), .pair (some "id") (.text "new"),
          .pair (some "enabled") (.bool false), .pair (some "cron") (.text "* * * * *")]
        ⟨"job", false, 0, 0⟩ "app" = .registered r ∧
      r.pattern = "* * * * *" ∧ r.id = "new" ∧ r.enabled = "false") ∧
    (∃ r, expand [.pair (some "cron") (.text "* * * * *")] ⟨"job", false, 0, 0⟩ "app" =
        .registered r ∧ r.id = "app::job" ∧ r.enabled = "true") ∧
    ∃ e, expand [.bare] ⟨"job", true, 1, 0⟩ "app" = .refused e ∧
      e.message = "#[scheduled] functions run on the blocking pool and must not be async" := by
  have hname : isRaw "job" = false := rfl
  refine ⟨?_, ?_, ?_⟩
  · obtain ⟨hiff, hgiven, -⟩ := expand_documented (f := ⟨⟨"job", false, 0, 0⟩, ()⟩) hname
      [.pair (some "enabled") (.text "$\x7bJOB\x7d"), .pair (some "cron") (.text "never"),
        .pair (some "id") (.text "old"), .pair (some "id") (.text "new"),
        .pair (some "enabled") (.bool false), .pair (some "cron") (.text "* * * * *")] "app"
    obtain ⟨r, hr⟩ := hiff.2 ⟨⟨rfl, rfl, rfl⟩, by
      simp only [List.forall_mem_cons]
      exact ⟨.text (by decide) _, .text (by decide) _, .text (by decide) _, .text (by decide) _,
        .switch _, .text (by decide) _, List.forall_mem_nil _⟩, _, .tail _ (.head _), _, rfl⟩
    obtain ⟨hpattern, hid, henabled, -⟩ := hgiven r hr
    exact ⟨r, hr, (Option.some.inj hpattern).symm, hid, henabled⟩
  · obtain ⟨hiff, hgiven, -⟩ := expand_documented (f := ⟨⟨"job", false, 0, 0⟩, ()⟩) hname
      [.pair (some "cron") (.text "* * * * *")] "app"
    obtain ⟨r, hr⟩ := hiff.2 ⟨⟨rfl, rfl, rfl⟩, List.forall_mem_singleton.2 (.text (by decide) _),
      _, .head _, _, rfl⟩
    obtain ⟨-, hid, henabled, -⟩ := hgiven r hr
    exact ⟨r, hr, hid, henabled⟩
  · obtain ⟨-, -, -, hfault⟩ :=
      expand_documented (f := ⟨⟨"job", true, 1, 0⟩, ()⟩) hname [.bare] "app"
    exact (hfault _).2 (.isAsync rfl)

end Attribute

end Crontab
