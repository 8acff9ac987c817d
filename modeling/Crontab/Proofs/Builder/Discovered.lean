import Crontab.Builder
import Crontab.Proofs.Table.Columns
import Mathlib.Data.List.Induction

/-!
# Building with marked functions

The marked functions are added all or none.  One that is switched off is passed over, whatever its
pattern and its id are; every other one needs a pattern, and an id that no enabled one before it
has.

* `Registration.switch` — whether a marked function is enabled.
* `Registration.Fits`, `Registration.Fault` — that a marked function can be added after others, or
  why it cannot.
* `AllFit` — that every one of several can be added after those before it.
* `Adds` — the table with the enabled ones, in their order.
* `registerOne_of_fits`, `registerOne_of_fault` — one marked function.
* `register_of_allFit`, `register_of_fault` — all of them.
* `discovered_all_or_nothing` — the scheduler that is built, or why there is none.
-/

set_option autoImplicit false

namespace Crontab

open Text

variable {τ ι : Type} {resolve : String → Except ConfigError String}

/-! ## Marked functions after others -/

namespace Registration

/-- Whether a marked function is enabled, if that can be told: its text must not be `false`, in
whatever letters. -/
def switch (resolve : String → Except ConfigError String) (r : Registration τ) :
    Except ConfigError Bool :=
  (resolve r.enabled).map fun s => !sameLetters s.toList "false".toList

/-- Whether a marked function can be added after `earlier` ones: it is switched off, or it has a
pattern, and no enabled one before it has its id. -/
inductive Fits (resolve : String → Except ConfigError String) (earlier : List (Registration τ))
    (r : Registration τ) : Prop where
  | off (h : r.switch resolve = .ok false) : Fits resolve earlier r
  | on {text : String} {p : Pattern} (h : r.switch resolve = .ok true)
    (htext : resolve r.pattern = .ok text) (hp : Pattern.parse text = .ok p)
    (hid : ∀ q ∈ earlier, q.switch resolve = .ok true → q.id ≠ r.id) : Fits resolve earlier r

/-- Why a marked function cannot be added after `earlier` ones.  What is wrong with its pattern or
its id counts only if it is enabled. -/
inductive Fault (resolve : String → Except ConfigError String) (earlier : List (Registration τ))
    (r : Registration τ) : SchedulerError → Prop where
  | enabled {e : ConfigError} (h : resolve r.enabled = .error e) :
    Fault resolve earlier r (.config e)
  | pattern {e : ConfigError} (h : r.switch resolve = .ok true)
    (htext : resolve r.pattern = .error e) : Fault resolve earlier r (.config e)
  | unreadable {text : String} {e : InvalidPattern} (h : r.switch resolve = .ok true)
    (htext : resolve r.pattern = .ok text) (hp : Pattern.parse text = .error e) :
    Fault resolve earlier r (.invalidPattern e)
  | duplicate {text : String} {p : Pattern} {q : Registration τ} (h : r.switch resolve = .ok true)
    (htext : resolve r.pattern = .ok text) (hp : Pattern.parse text = .ok p) (hq : q ∈ earlier)
    (hon : q.switch resolve = .ok true) (hid : q.id = r.id) :
    Fault resolve earlier r (.table (.duplicateId (.named r.id)))

/-- The warnings that come with an error of a marked function. -/
def warnings (r : Registration τ) : SchedulerError → List BuildWarning
  | .invalidPattern e => [.invalidPattern r.id e]
  | _ => []

/-- The entry of an enabled marked function: its id, the pattern of its text, its handler. -/
structure IsEntry (resolve : String → Except ConfigError String) (r : Registration τ)
    (e : Entry τ) : Prop where
  id : e.id = .named r.id
  pattern : ∃ text, resolve r.pattern = .ok text ∧ Pattern.parse text = .ok e.pattern
  task : e.task = r.handler

theorem switch_eq_ok_iff {r : Registration τ} {b : Bool} :
    r.switch resolve = .ok b ↔
      ∃ s, resolve r.enabled = .ok s ∧ sameLetters s.toList "false".toList = !b := by
  unfold switch
  cases resolve r.enabled <;> cases b <;> simp [Except.map]

theorem fits_or_fault (earlier : List (Registration τ)) (r : Registration τ) :
    r.Fits resolve earlier ∨ ∃ e, r.Fault resolve earlier e := by
  cases henabled : resolve r.enabled with
  | error e => exact .inr ⟨_, .enabled henabled⟩
  | ok s =>
    cases hs : sameLetters s.toList "false".toList with
    | true => exact .inl (.off (switch_eq_ok_iff.2 ⟨s, henabled, hs⟩))
    | false =>
      have hon : r.switch resolve = .ok true := switch_eq_ok_iff.2 ⟨s, henabled, hs⟩
      cases htext : resolve r.pattern with
      | error e => exact .inr ⟨_, .pattern hon htext⟩
      | ok text =>
        cases hp : Pattern.parse text with
        | error e => exact .inr ⟨_, .unreadable hon htext hp⟩
        | ok p =>
          by_cases hid : ∀ q ∈ earlier, q.switch resolve = .ok true → q.id ≠ r.id
          · exact .inl (.on hon htext hp hid)
          · push Not at hid
            obtain ⟨q, hq, hqon, hqid⟩ := hid
            exact .inr ⟨_, .duplicate hon htext hp hq hqon hqid⟩

end Registration

/-- Each of several marked functions can be added after those before it. -/
def AllFit (resolve : String → Except ConfigError String) (rs : List (Registration τ)) : Prop :=
  ∀ earlier r later, rs = earlier ++ r :: later → r.Fits resolve earlier

theorem allFit_nil : AllFit resolve ([] : List (Registration τ)) := by
  intro earlier r later h
  simp at h

theorem allFit_append_singleton_iff {rs : List (Registration τ)} {r : Registration τ} :
    AllFit resolve (rs ++ [r]) ↔ AllFit resolve rs ∧ r.Fits resolve rs := by
  constructor
  · intro h
    refine ⟨fun earlier q later heq => h earlier q (later ++ [r]) ?_, h rs r [] rfl⟩
    rw [heq, List.append_assoc, List.cons_append]
  · rintro ⟨hrs, hr⟩ earlier q later heq
    rcases List.eq_nil_or_concat later with rfl | ⟨later, q', rfl⟩
    · obtain ⟨rfl, h⟩ := List.append_inj' heq rfl
      cases h
      exact hr
    · rw [List.concat_eq_append, ← List.cons_append, ← List.append_assoc] at heq
      exact hrs earlier q later (List.append_inj' heq rfl).1

/-- Where not every one can be added there is a first one that cannot. -/
theorem exists_first_fault {rs : List (Registration τ)} (h : ¬ AllFit resolve rs) :
    ∃ earlier r later e, rs = earlier ++ r :: later ∧ AllFit resolve earlier ∧
      r.Fault resolve earlier e := by
  induction rs using List.reverseRecOn with
  | nil => exact absurd allFit_nil h
  | append_singleton rs r ih =>
    by_cases hrs : AllFit resolve rs
    · rcases Registration.fits_or_fault rs r with hr | ⟨e, he⟩
      · exact absurd (allFit_append_singleton_iff.2 ⟨hrs, hr⟩) h
      · exact ⟨rs, r, [], e, rfl, hrs, he⟩
    · obtain ⟨earlier, q, later, e, rfl, hearlier, he⟩ := ih hrs
      exact ⟨earlier, q, later ++ [r], e, by simp, hearlier, he⟩

/-! ## The table of marked functions -/

/-- A table holds the enabled ones of some marked functions, in their order and nothing else. -/
def Adds (resolve : String → Except ConfigError String) (rs : List (Registration τ))
    (t : Table τ) : Prop :=
  List.Forall₂ (Registration.IsEntry resolve)
    (rs.filter fun r => r.switch resolve = .ok true) t.entries

namespace Adds

variable {rs : List (Registration τ)} {t : Table τ} {r : Registration τ}

theorem empty : Adds resolve ([] : List (Registration τ)) Table.empty := .nil

theorem append_off (h : Adds resolve rs t) (hr : r.switch resolve = .ok false) :
    Adds resolve (rs ++ [r]) t := by
  simpa [Adds, List.filter_append, hr] using h

theorem append_on (h : Adds resolve rs t) (hr : r.switch resolve = .ok true) {e : Entry τ}
    (he : r.IsEntry resolve e) : Adds resolve (rs ++ [r]) ⟨t.entries ++ [e]⟩ := by
  have hfilter : (rs ++ [r]).filter (fun r => r.switch resolve = .ok true) =
      (rs.filter fun r => r.switch resolve = .ok true) ++ [r] := by
    simp [List.filter_append, hr]
  rw [Adds, hfilter]
  exact List.rel_append h (.cons he .nil)

theorem ids_eq (h : Adds resolve rs t) :
    t.ids = (rs.filter fun r => r.switch resolve = .ok true).map (.named ·.id) := by
  unfold Adds at h
  rw [Table.ids]
  generalize (rs.filter fun r => r.switch resolve = .ok true) = on, t.entries = entries at h ⊢
  induction h with
  | nil => rfl
  | cons hentry _ ih => rw [List.map_cons, List.map_cons, hentry.id, ih]

/-- The ids that are taken are those of the enabled ones. -/
theorem contains_iff (h : Adds resolve rs t) (id : String) :
    t.contains (.named id) = true ↔ ∃ q ∈ rs, q.switch resolve = .ok true ∧ q.id = id := by
  rw [Table.contains_iff, h.ids_eq]
  simp [and_assoc]

end Adds

namespace Builder

/-! ## Adding one -/

variable {rs : List (Registration τ)} {t : Table τ} {r : Registration τ} {e : SchedulerError}

theorem registerOne_of_off (hr : r.switch resolve = .ok false) (c : Columns τ) :
    registerOne resolve c r = .ok c := by
  obtain ⟨s, henabled, hs⟩ := Registration.switch_eq_ok_iff.1 hr
  simp only [registerOne, henabled, hs, Bool.not_false, if_true]

/-- An enabled one is added if its pattern can be had and its id is not taken. -/
theorem registerOne_of_on (hr : r.switch resolve = .ok true) (t : Table τ) :
    registerOne resolve (Columns.ofTable t) r =
      match resolve r.pattern with
      | .error e => .error (.config e)
      | .ok text =>
        match Pattern.parse text with
        | .error e => .error (.invalidPattern e)
        | .ok p =>
          if t.contains (.named r.id) then .error (.table (.duplicateId (.named r.id)))
          else .ok (Columns.ofTable ⟨t.entries ++ [⟨.named r.id, p, r.handler⟩]⟩) := by
  obtain ⟨s, henabled, hs⟩ := Registration.switch_eq_ok_iff.1 hr
  simp only [registerOne, henabled, hs, Bool.not_true, Bool.false_eq_true, if_false]
  cases resolve r.pattern with
  | error e => rfl
  | ok text =>
    simp only
    cases Pattern.parse text with
    | error e => rfl
    | ok p =>
      simp only [Columns.run_add, Columns.contains_ofTable]
      cases t.contains (.named r.id) <;> simp [Columns.ofTable]

/-- What can be added after others is added to their table. -/
theorem registerOne_of_fits (h : Adds resolve rs t) (hr : r.Fits resolve rs) :
    ∃ t', registerOne resolve (Columns.ofTable t) r = .ok (Columns.ofTable t') ∧
      Adds resolve (rs ++ [r]) t' := by
  cases hr with
  | off hoff => exact ⟨t, registerOne_of_off hoff _, h.append_off hoff⟩
  | on hon htext hp hid =>
    have hfree : t.contains (.named r.id) = false := by
      rw [← Bool.not_eq_true, h.contains_iff]
      rintro ⟨q, hq, hqon, hqid⟩
      exact hid q hq hqon hqid
    refine ⟨_, ?_, h.append_on (e := ⟨.named r.id, _, r.handler⟩) hon ⟨rfl, ⟨_, htext, hp⟩, rfl⟩⟩
    simp [registerOne_of_on hon, htext, hp, hfree]

/-- What cannot be added after others is refused for its fault. -/
theorem registerOne_of_fault (h : Adds resolve rs t) (hr : r.Fault resolve rs e) :
    registerOne resolve (Columns.ofTable t) r = .error e := by
  cases hr with
  | enabled henabled => simp [registerOne, henabled]
  | pattern hon htext => simp [registerOne_of_on hon, htext]
  | unreadable hon htext hp => simp [registerOne_of_on hon, htext, hp]
  | duplicate hon htext hp hq hqon hid =>
    have htaken : t.contains (.named r.id) = true := (h.contains_iff r.id).2 ⟨_, hq, hqon, hid⟩
    simp [registerOne_of_on hon, htext, hp, htaken]

/-! ## Adding all -/

theorem register_cons (c : Columns τ) (r : Registration τ) (rest : List (Registration τ)) :
    register resolve c (r :: rest) =
      match registerOne resolve c r with
      | .ok c => register resolve c rest
      | .error e => .error (e, r.warnings e) := by
  rw [register]
  cases registerOne resolve c r with
  | ok c => rfl
  | error e => cases e <;> rfl

theorem register_append (c : Columns τ) (rs more : List (Registration τ)) :
    register resolve c (rs ++ more) =
      match register resolve c rs with
      | .ok c => register resolve c more
      | .error e => .error e := by
  induction rs generalizing c with
  | nil => rfl
  | cons r rs ih =>
    rw [List.cons_append, register_cons, register_cons]
    cases registerOne resolve c r with
    | ok c => exact ih c
    | error e => rfl

/-- If each can be added after those before it, then all are added. -/
theorem register_of_allFit (h : AllFit resolve rs) :
    ∃ t, register resolve Columns.empty rs = .ok (Columns.ofTable t) ∧ Adds resolve rs t := by
  induction rs using List.reverseRecOn with
  | nil => exact ⟨Table.empty, rfl, Adds.empty⟩
  | append_singleton rs r ih =>
    obtain ⟨hrs, hr⟩ := allFit_append_singleton_iff.1 h
    obtain ⟨t, ht, hadds⟩ := ih hrs
    obtain ⟨t', ht', hadds'⟩ := registerOne_of_fits hadds hr
    refine ⟨t', ?_, hadds'⟩
    rw [register_append, ht]
    simp only [ht', register]

/-- The first one that cannot be added ends it. -/
theorem register_of_fault {later : List (Registration τ)} (h : AllFit resolve rs)
    (hr : r.Fault resolve rs e) :
    register resolve Columns.empty (rs ++ r :: later) = .error (e, r.warnings e) := by
  obtain ⟨t, ht, hadds⟩ := register_of_allFit h
  rw [register_append, ht]
  simp only [register_cons, registerOne_of_fault hadds hr]

/-- Those that are switched off make no difference. -/
theorem register_filter (c : Columns τ) (rs : List (Registration τ)) :
    register resolve c (rs.filter fun r => r.switch resolve ≠ .ok false) =
      register resolve c rs := by
  induction rs generalizing c with
  | nil => rfl
  | cons r rs ih =>
    by_cases hr : r.switch resolve = .ok false
    · rw [List.filter_cons_of_neg (by simpa using hr), ih, register_cons, registerOne_of_off hr]
    · rw [List.filter_cons_of_pos (by simpa using hr), register_cons, register_cons]
      cases registerOne resolve c r with
      | ok c => exact ih c
      | error e => rfl

/-! ## The scheduler with marked functions -/

/-- With its settings and its zone, a builder gives a scheduler to whose table the marked functions
are added. -/
theorem buildWith_of_resolved (lookup : String → Except ConfigError String) {zones : TimeZones}
    {b : Builder τ ι} {settings : Settings} {zone : Zone}
    (hs : b.resolveSettings = .ok settings) (hz : b.resolveZone zones settings = .ok zone) :
    b.buildWith lookup zones =
      match register (Placeholder.resolveWith lookup) Columns.empty (b.discovered.getD []) with
      | .error e => .error e
      | .ok table =>
        let base : Scheduler τ ι := .ofParts settings zone
        .ok { base with listeners := b.listeners.foldl Registry.add base.listeners, table } := by
  simp only [buildWith, hs, hz]
  rfl

/-- **Marked functions are added all or none, in their order.**  Let texts at key paths be looked up
in whatever way.  Once the settings and the zone of a builder are there, its scheduler is built if
and only if each marked function fits those before it: what tells whether it is enabled can be had,
and if it is enabled, then so can its pattern, and no enabled one before it has its id.  The
scheduler is then the one without marked functions, save that its table holds the enabled ones in
their order, each with the pattern of its own text and its own handler, and nothing else.  Otherwise
the error is that of the first one that does not fit.  One that is switched off might as well not be
there.

`build` looks texts up in the builder's own configuration, with `b.config.string`. -/
theorem discovered_all_or_nothing (lookup : String → Except ConfigError String)
    {zones : TimeZones} {b : Builder τ ι} {rs : List (Registration τ)} {settings : Settings}
    {zone : Zone} (hrs : b.discovered = some rs) (hs : b.resolveSettings = .ok settings)
    (hz : b.resolveZone zones settings = .ok zone) :
    let resolve := Placeholder.resolveWith lookup
    ((∃ s, b.buildWith lookup zones = .ok s) ↔ AllFit resolve rs) ∧
    (∀ s, b.buildWith lookup zones = .ok s → ∃ bare t,
      ({ b with discovered := none } : Builder τ ι).buildWith lookup zones = .ok bare ∧
      s = { bare with table := Columns.ofTable t } ∧
      List.Forall₂ (Registration.IsEntry resolve)
        (rs.filter fun r => r.switch resolve = .ok true) t.entries) ∧
    (∀ e warnings, b.buildWith lookup zones = .error (e, warnings) ↔
      ∃ earlier r later, rs = earlier ++ r :: later ∧ AllFit resolve earlier ∧
        r.Fault resolve earlier e ∧ warnings = r.warnings e) ∧
    ({ b with discovered := some (rs.filter fun r => r.switch resolve ≠ .ok false) } :
      Builder τ ι).buildWith lookup zones = b.buildWith lookup zones := by
  intro resolve
  have hbuild := buildWith_of_resolved lookup hs hz
  rw [hrs, Option.getD_some] at hbuild
  -- The first fault decides, whether or not there are others behind it.
  have hfault : ∀ earlier r later e, rs = earlier ++ r :: later → AllFit resolve earlier →
      r.Fault resolve earlier e → b.buildWith lookup zones = .error (e, r.warnings e) := by
    intro earlier r later e heq hearlier he
    rw [hbuild, heq, register_of_fault hearlier he]
  have hoff : ({ b with discovered := some (rs.filter fun r => r.switch resolve ≠ .ok false) } :
      Builder τ ι).buildWith lookup zones = b.buildWith lookup zones := by
    refine (buildWith_of_resolved lookup (b := { b with discovered := some _ }) hs hz).trans ?_
    simp only [hbuild, Option.getD_some, resolve, register_filter]
  by_cases hfit : AllFit resolve rs
  · obtain ⟨t, ht, hadds⟩ := register_of_allFit hfit
    rw [ht] at hbuild
    refine ⟨⟨fun _ => hfit, fun _ => ⟨_, hbuild⟩⟩, ?_, ?_, hoff⟩
    · intro s h
      obtain rfl := Except.ok.inj (hbuild.symm.trans h)
      exact ⟨_, t, buildWith_of_resolved lookup hs hz, rfl, hadds⟩
    · intro e warnings
      constructor
      · intro h
        cases hbuild.symm.trans h
      · rintro ⟨earlier, r, later, heq, hearlier, he, rfl⟩
        exact hfault earlier r later e heq hearlier he
  · obtain ⟨earlier, r, later, e, heq, hearlier, he⟩ := exists_first_fault hfit
    have herror := hfault earlier r later e heq hearlier he
    refine ⟨⟨?_, fun h => absurd h hfit⟩, ?_, ?_, hoff⟩
    · rintro ⟨s, h⟩
      cases herror.symm.trans h
    · intro s h
      cases herror.symm.trans h
    · intro e' warnings
      constructor
      · intro h
        cases herror.symm.trans h
        exact ⟨earlier, r, later, heq, hearlier, he, rfl⟩
      · rintro ⟨earlier, r, later, heq, hearlier, he, rfl⟩
        exact hfault earlier r later e' heq hearlier he

/-- The second of three marked functions is switched off by the configuration, so that it may have
the id of the first and no pattern at all.  A fourth one that is enabled may not have that id, and
then nothing is built. -/
theorem discovered_all_or_nothing_with_id_twice :
    let config : Config :=
      ⟨.table [("jobs", .table [("late", .str "FALSE"), ("report", .str "0 9 * * 1")])]⟩
    let zones : TimeZones := .ofList (.fixed 0) []
    let resolve := Placeholder.resolve config
    let marked : List (Registration Nat) :=
      [⟨"a", "0 2 * * *", "true", 1⟩, ⟨"a", "never", "$\x7bjobs.late\x7d", 2⟩,
        ⟨"b", "$\x7bjobs.report:* * * * *\x7d", "$\x7bjobs.early:yes\x7d", 3⟩]
    let again : Registration Nat := ⟨"a", "* * * * *", "TRUE", 4⟩
    let three : Builder Nat Unit := { config, discovered := some marked }
    let four : Builder Nat Unit := { config, discovered := some (marked ++ [again]) }
    three.resolveSettings = .ok {} ∧ three.resolveZone zones {} = .ok (.localTime (.fixed 0)) ∧
      AllFit resolve marked ∧ again.Fault resolve marked (.table (.duplicateId (.named "a"))) ∧
      (∃ s, three.build zones = .ok s ∧ s.table.ids = [.named "a", .named "b"]) ∧
      four.build zones = .error (.table (.duplicateId (.named "a")), []) := by
  intro config zones resolve marked again three four
  have hfit : AllFit resolve marked := by
    have hfirst : Registration.Fits resolve [] ⟨"a", "0 2 * * *", "true", 1⟩ :=
      .on rfl rfl rfl (List.forall_mem_nil _)
    have hsecond : Registration.Fits resolve [⟨"a", "0 2 * * *", "true", 1⟩]
        ⟨"a", "never", "$\x7bjobs.late\x7d", 2⟩ := .off rfl
    have hthird : Registration.Fits resolve
        [⟨"a", "0 2 * * *", "true", 1⟩, ⟨"a", "never", "$\x7bjobs.late\x7d", 2⟩]
        ⟨"b", "$\x7bjobs.report:* * * * *\x7d", "$\x7bjobs.early:yes\x7d", 3⟩ :=
      .on rfl rfl rfl (by decide)
    have honly := allFit_append_singleton_iff.2 ⟨allFit_nil, hfirst⟩
    have hboth := allFit_append_singleton_iff.2 ⟨honly, hsecond⟩
    exact allFit_append_singleton_iff.2 ⟨hboth, hthird⟩
  have hfault : again.Fault resolve marked (.table (.duplicateId (.named "a"))) :=
    .duplicate (r := ⟨"a", "* * * * *", "TRUE", 4⟩) rfl rfl rfl List.mem_cons_self rfl rfl
  have hsettings : three.resolveSettings = .ok {} := rfl
  have hzone : three.resolveZone zones {} = .ok (.localTime (.fixed 0)) := rfl
  obtain ⟨hbuilt, htable, -⟩ :=
    discovered_all_or_nothing config.string (b := three) rfl hsettings hzone
  obtain ⟨-, -, herror, -⟩ :=
    discovered_all_or_nothing config.string (b := four) rfl hsettings hzone
  refine ⟨hsettings, hzone, hfit, hfault, ?_, ?_⟩
  · obtain ⟨s, hs⟩ := hbuilt.2 hfit
    obtain ⟨bare, t, -, rfl, hadds⟩ := htable s hs
    exact ⟨_, hs, Adds.ids_eq hadds⟩
  · exact (herror _ _).2 ⟨marked, again, [], rfl, hfit, hfault, rfl⟩

end Builder

end Crontab
