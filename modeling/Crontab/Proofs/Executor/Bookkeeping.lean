import Crontab.Executor
import Crontab.Proofs.Places
import Mathlib.Data.List.Nodup

/-!
# Nothing is lost by an executor

Whatever the order in which the loop, the launches and the jobs go on, no more jobs run than the
limit permits, no job is handed over twice, and none is lost when the executor is torn down.

* `Executor.Sound` — who holds the senders and the permits, and where the jobs are.
* `Sound.step`, `sound_of_start` — every step preserves it, so it holds of all that starts lead to.
* `Sound.of_drained` — of a drained executor nothing is left behind.
* `executor_loses_nothing` — of every executor that a start and steps in any order lead to.
-/

set_option autoImplicit false

namespace Crontab

namespace Dispatch

variable {τ : Type}

theorem nodup_jobs (d : Dispatch τ) : d.jobs.Nodup := by
  have hplaces : d.jobs.map (·.place) = List.range d.due.length := by
    refine List.ext_getElem (by simp [jobs]) fun i _ _ => ?_
    simp [jobs]
  refine List.Nodup.of_map (·.place) ?_
  rw [hplaces]
  exact List.nodup_range

theorem tick_of_mem_jobs {d : Dispatch τ} {j : Job} (h : j ∈ d.jobs) : j.tick = d.launch.tick := by
  obtain ⟨i, hi, rfl⟩ := List.mem_mapIdx.1 h
  rfl

theorem task_of_mem_jobs {d : Dispatch τ} {j : Job} (h : j ∈ d.jobs) :
    d.due[j.place]?.map (·.1) = some j.task := by
  obtain ⟨i, hi, rfl⟩ := List.mem_mapIdx.1 h
  rw [List.getElem?_eq_getElem hi]
  rfl

end Dispatch

/-- The jobs of dispatches for different ticks are different. -/
theorem nodup_flatMap_jobs {τ : Type} {l : List (Dispatch τ)} (h : (l.map (·.launch.tick)).Nodup) :
    (l.flatMap Dispatch.jobs).Nodup := by
  refine List.nodup_flatMap.2 ⟨fun d _ => d.nodup_jobs, ?_⟩
  refine (List.pairwise_map.1 h).imp fun {d d'} hne j hd hd' => hne ?_
  rw [← Dispatch.tick_of_mem_jobs hd, ← Dispatch.tick_of_mem_jobs hd']

namespace Executor

variable {τ : Type}

/-- The books of an executor with a limit: every sender and every permit is held by somebody or
accounted for, every tick has its launch, and every job is at one place. -/
structure Sound (limit : Option Nat) (e : Executor τ) : Prop where
  limited : e.limit = limit
  senders : e.senders = (if e.ticking then 1 else 0) + e.launches.length +
    (e.queued.length + e.granted.length) + e.parting
  permits : ∀ n, limit = some n → e.free + (e.granted.length + e.running.length) = permits n
  fired : e.fired.map (·.tick) = List.range e.fired.length
  launched : (e.launches ++ e.dispatches.map (·.launch)).Perm e.fired
  jobs : (e.queued ++ (e.granted ++ e.handedOver)).Perm (e.dispatches.flatMap Dispatch.jobs)
  threads : (e.running ++ e.ended.map (·.1)).Perm e.handedOver
  drained : e.drained = true → e.senders = 0
  lost : e.lost = []

/-- Under a limit a job takes a permit that is free. -/
theorem free_of_takePermit {e : Executor τ} {n free : Nat} (hlimit : e.limit = some n)
    (h : e.takePermit = some free) : e.free = free + 1 := by
  simp only [takePermit, hlimit, Option.isNone_some, Bool.false_eq_true, if_false] at h
  split at h
  · cases h
  · cases h
    omega

namespace Sound

variable {limit : Option Nat} {e e' : Executor τ}

theorem of_start {matchSecond : Bool} (h : start limit matchSecond = .ok e) : e.Sound limit := by
  unfold start at h
  cases hc : checkLimit limit with
  | error err => rw [hc] at h; cases h
  | ok x =>
    rw [hc] at h
    cases h
    exact {
      limited := rfl
      senders := rfl
      permits := by rintro n ⟨⟩; rfl
      fired := rfl
      launched := .nil
      jobs := .nil
      threads := .nil
      drained := nofun
      lost := rfl }

theorem tick (h : e.Sound limit) {time : Int} (he : e.tick time = some e') : e'.Sound limit := by
  unfold Executor.tick at he
  split at he
  · rename_i ht
    cases he
    -- The loop holds a sender, so the executor has not been drained.
    have hopen : e.senders ≠ 0 := by
      have := h.senders
      simp only [ht, if_true] at this
      omega
    exact {
      limited := h.limited
      senders := by
        have := h.senders
        simp only [List.length_append, List.length_singleton]
        omega
      permits := h.permits
      fired := by simp [h.fired, List.range_succ]
      launched := by
        refine List.Perm.trans ?_ (h.launched.append_right _)
        simp only [List.append_assoc]
        exact List.perm_append_comm.append_left _
      jobs := h.jobs
      threads := h.threads
      drained := fun hd => absurd (h.drained hd) hopen
      lost := h.lost }
  · cases he

theorem endLoop (h : e.Sound limit) (he : e.endLoop = some e') : e'.Sound limit := by
  unfold Executor.endLoop at he
  split at he
  · rename_i ht
    cases he
    exact { h with
      senders := by
        have := h.senders
        simp only [ht, if_true] at this
        simp only [Bool.false_eq_true, if_false]
        omega }
  · cases he

theorem launch (h : e.Sound limit) {k : Nat} {table : Columns τ} {zone : Zone}
    (he : e.launch k table zone = some e') : e'.Sound limit := by
  obtain ⟨l, hl, rfl⟩ := Option.map_eq_some_iff.1 he
  have hone := perm_cons_eraseIdx hl
  have hlength := length_eq_length_eraseIdx hl
  -- So does the launch.
  have hopen : e.senders ≠ 0 := by
    have := h.senders
    omega
  exact {
    limited := h.limited
    senders := by
      have := h.senders
      simp only [List.length_append]
      omega
    permits := h.permits
    fired := h.fired
    launched := by
      -- What the launches lose the dispatches gain.
      refine List.perm_iff_count.2 fun x => ?_
      have hall := h.launched.count_eq x
      have htaken := hone.count_eq x
      simp only [List.count_append, List.map_append, List.map_cons, List.map_nil, List.count_cons,
        List.count_nil] at hall htaken ⊢
      omega
    jobs := by
      refine List.perm_iff_count.2 fun x => ?_
      have hall := h.jobs.count_eq x
      simp only [List.count_append, List.flatMap_append, List.flatMap_cons, List.flatMap_nil,
        List.append_nil] at hall ⊢
      omega
    threads := h.threads
    drained := fun hd => absurd (h.drained hd) hopen
    lost := h.lost }

theorem acquire (h : e.Sound limit) {k : Nat} (he : e.acquire k = some e') : e'.Sound limit := by
  obtain ⟨j, hj, he⟩ := Option.bind_eq_some_iff.1 he
  obtain ⟨free, hfree, he⟩ := Option.bind_eq_some_iff.1 he
  cases he
  have hone := perm_cons_eraseIdx hj
  have hlength := length_eq_length_eraseIdx hj
  exact {
    limited := h.limited
    senders := by
      have := h.senders
      simp only [List.length_append, List.length_cons, List.length_nil]
      omega
    permits := by
      intro n hn
      have := h.permits n hn
      have := free_of_takePermit (h.limited.trans hn) hfree
      simp only [List.length_append, List.length_cons, List.length_nil]
      omega
    fired := h.fired
    launched := h.launched
    jobs := by
      refine List.perm_iff_count.2 fun x => ?_
      have hall := h.jobs.count_eq x
      have htaken := hone.count_eq x
      simp only [List.count_append, List.count_cons, List.count_nil] at hall htaken ⊢
      omega
    threads := h.threads
    drained := h.drained
    lost := h.lost }

theorem handOver (h : e.Sound limit) {k : Nat} (he : e.handOver k = some e') : e'.Sound limit := by
  obtain ⟨j, hj, rfl⟩ := Option.map_eq_some_iff.1 he
  have hone := perm_cons_eraseIdx hj
  have hlength := length_eq_length_eraseIdx hj
  exact {
    limited := h.limited
    senders := by
      have := h.senders
      simp only
      omega
    permits := by
      intro n hn
      have := h.permits n hn
      simp only [List.length_append, List.length_cons, List.length_nil]
      omega
    fired := h.fired
    launched := h.launched
    jobs := by
      refine List.perm_iff_count.2 fun x => ?_
      have hall := h.jobs.count_eq x
      have htaken := hone.count_eq x
      simp only [List.count_append, List.count_cons, List.count_nil] at hall htaken ⊢
      omega
    threads := by
      refine List.perm_iff_count.2 fun x => ?_
      have hall := h.threads.count_eq x
      simp only [List.count_append] at hall ⊢
      omega
    drained := h.drained
    lost := h.lost }

theorem leave (h : e.Sound limit) {k : Nat} {how : Leaving} (he : e.leave k how = some e') :
    e'.Sound limit := by
  obtain ⟨j, hj, rfl⟩ := Option.map_eq_some_iff.1 he
  have hone := perm_cons_eraseIdx hj
  have hlength := length_eq_length_eraseIdx hj
  exact { h with
    permits := by
      intro n hn
      have := h.permits n hn
      simp only [h.limited, hn, Option.isNone_some, Bool.false_eq_true, if_false]
      omega
    threads := by
      refine List.perm_iff_count.2 fun x => ?_
      have hall := h.threads.count_eq x
      have htaken := hone.count_eq x
      simp only [List.count_append, List.map_append, List.map_cons, List.map_nil, List.count_cons,
        List.count_nil] at hall htaken ⊢
      omega }

theorem release (h : e.Sound limit) (he : e.release = some e') : e'.Sound limit := by
  unfold Executor.release at he
  split at he
  · cases he
  · cases he
    exact { h with
      senders := by
        have := h.senders
        simp only
        omega
      drained := fun hd => by
        have := h.drained hd
        simp only
        omega }

theorem drain (h : e.Sound limit) (he : e.drain = some e') : e'.Sound limit := by
  unfold Executor.drain at he
  split at he
  · cases he
    exact { h with drained := fun _ => ‹_› }
  · cases he

/-- Of a drained executor nothing is left that could dispatch or hand over a job. -/
theorem of_drained (h : e.Sound limit) (hd : e.drained = true) :
    e.ticking = false ∧ e.launches = [] ∧ e.queued = [] ∧ e.granted = [] := by
  have hsenders := h.senders
  rw [h.drained hd] at hsenders
  refine ⟨?_, ?_, ?_, ?_⟩
  · cases ht : e.ticking with
    | false => rfl
    | true => simp only [ht, if_true] at hsenders; omega
  all_goals exact List.length_eq_zero_iff.1 (by omega)

theorem tearDown (h : e.Sound limit) (he : e.tearDown = some e') : e'.Sound limit := by
  unfold Executor.tearDown at he
  split at he
  · rename_i hd
    cases he
    obtain ⟨-, -, hq, hg⟩ := h.of_drained hd
    exact { h with
      senders := by simpa only [hq, hg] using h.senders
      permits := fun n hn => by simpa only [hg] using h.permits n hn
      jobs := by simpa only [hq, hg] using h.jobs
      lost := by rw [h.lost, hq, hg]; rfl }
  · cases he

/-- Every step preserves the books. -/
theorem step (h : e.Sound limit) (s : Step τ) (he : e.step s = some e') : e'.Sound limit := by
  cases s with
  | tick time => exact h.tick he
  | endLoop => exact h.endLoop he
  | launch k table zone => exact h.launch he
  | acquire k => exact h.acquire he
  | handOver k => exact h.handOver he
  | leave k how => exact h.leave he
  | release => exact h.release he
  | drain => exact h.drain he
  | tearDown => exact h.tearDown he

/-! ## What the books say -/

theorem nodup_dispatched (h : e.Sound limit) : (e.dispatches.map (·.launch.tick)).Nodup := by
  have hticks := (h.launched.map (·.tick)).nodup_iff.2 (h.fired ▸ List.nodup_range)
  rw [List.map_append, List.map_map] at hticks
  exact (List.nodup_append'.1 hticks).2.1

/-- No job is handed over twice. -/
theorem nodup_handedOver (h : e.Sound limit) : e.handedOver.Nodup := by
  -- Jobs differ when they are dispatched, and each of them is at one place.
  have hjobs := h.jobs.nodup_iff.2 (nodup_flatMap_jobs h.nodup_dispatched)
  exact (List.nodup_append'.1 (List.nodup_append'.1 hjobs).2.1).2.1

/-- What is handed over is due at a tick that has fired. -/
theorem due_of_mem_handedOver (h : e.Sound limit) {j : Job} (hj : j ∈ e.handedOver) :
    ∃ d ∈ e.dispatches, d.launch ∈ e.fired ∧ j.tick = d.launch.tick ∧
      d.due[j.place]?.map (·.1) = some j.task := by
  have hmem : j ∈ e.queued ++ (e.granted ++ e.handedOver) := by simp [hj]
  obtain ⟨d, hd, hjd⟩ := List.mem_flatMap.1 (h.jobs.mem_iff.1 hmem)
  refine ⟨d, hd, h.launched.mem_iff.1 ?_, Dispatch.tick_of_mem_jobs hjd,
    Dispatch.task_of_mem_jobs hjd⟩
  exact List.mem_append_right _ (List.mem_map_of_mem hd)

/-- A job that waits while no thread runs can take a permit or be handed over. -/
theorem proceeds (h : e.Sound limit) (hrun : e.running = [])
    (hwait : e.queued ≠ [] ∨ e.granted ≠ []) :
    (∃ e', e.acquire 0 = some e') ∨ ∃ e', e.handOver 0 = some e' := by
  cases hg : e.granted with
  | cons j l => exact .inr ⟨_, by simp [Executor.handOver, hg]; rfl⟩
  | nil =>
    cases hq : e.queued with
    | nil => simp [hq, hg] at hwait
    | cons j l =>
      -- No job holds a permit, so all of them are free, and there is at least one.
      have hfree : ∃ free, e.takePermit = some free := by
        cases hl : limit with
        | none => exact ⟨e.free, by simp [takePermit, h.limited, hl]⟩
        | some n =>
          have hpermits := h.permits n hl
          have := one_le_permits n
          rw [hg, hrun] at hpermits
          simp only [List.length_nil] at hpermits
          exact ⟨e.free - 1, by simp [takePermit, h.limited, hl]; omega⟩
      obtain ⟨free, hfree⟩ := hfree
      exact .inl ⟨_, by simp [Executor.acquire, hq, hfree]; rfl⟩

/-- No sender is left behind by those who have done their part. -/
theorem drains (h : e.Sound limit) (hticking : e.ticking = false) (hlaunches : e.launches = [])
    (hqueued : e.queued = []) (hgranted : e.granted = []) (hparting : e.parting = 0) :
    ∃ e', e.drain = some e' := by
  have hsenders : e.senders = 0 := by
    rw [h.senders, hticking, hlaunches, hqueued, hgranted, hparting]
    rfl
  exact ⟨_, if_pos hsenders⟩

end Sound

/-- The books are right after steps in any order. -/
theorem sound_of_start {limit : Option Nat} {matchSecond : Bool} {e₀ e : Executor τ}
    (h₀ : start limit matchSecond = .ok e₀) {steps : List (Step τ)}
    (h : runSteps step e₀ steps = some e) : e.Sound limit :=
  runSteps_induction (fun _ s _ hs he => hs.step s he) steps (.of_start h₀) h

/-- **Bounded at any moment, and nothing lost in the end.**  Take any limit that can be counted and
any order of steps.  The threads that run, which are those handed over and not left, never are more
than the permits, and the permits that are free or held are all there are, so that jobs that wait
while no thread runs can go on.  No job is handed over twice, and each is for a task due at a tick
that has fired, whose tasks are dispatched once.  When the executor is drained, the loop has ended,
every tick has been dispatched and every job has been handed over, so that tearing it down loses
none; and once the loop has ended and nothing waits, only senders about to be dropped keep it from
being drained. -/
theorem executor_loses_nothing {limit : Option Nat} {matchSecond : Bool} {e₀ e : Executor τ}
    {steps : List (Step τ)} (h₀ : start limit matchSecond = .ok e₀)
    (h : runSteps step e₀ steps = some e) :
    (e.running ++ e.ended.map (·.1)).Perm e.handedOver ∧
    (∀ n, limit = some n → e.running.length ≤ permits n ∧
      e.free + (e.granted.length + e.running.length) = permits n) ∧
    (e.running = [] → e.queued ≠ [] ∨ e.granted ≠ [] →
      (∃ e', e.step (.acquire 0 : Step τ) = some e') ∨
        ∃ e', e.step (.handOver 0 : Step τ) = some e') ∧
    (e.handedOver.Nodup ∧ (e.dispatches.map (·.launch.tick)).Nodup ∧
      ∀ j ∈ e.handedOver, ∃ d ∈ e.dispatches, d.launch ∈ e.fired ∧ j.tick = d.launch.tick ∧
        d.due[j.place]?.map (·.1) = some j.task) ∧
    (e.drained = true →
      e.ticking = false ∧ e.launches = [] ∧ (e.dispatches.map (·.launch)).Perm e.fired ∧
      e.queued = [] ∧ e.granted = [] ∧
      e.handedOver.Perm (e.dispatches.flatMap Dispatch.jobs)) ∧
    (e.ticking = false → e.launches = [] → e.queued = [] → e.granted = [] → e.parting = 0 →
      ∃ e', e.step (.drain : Step τ) = some e') ∧
    e.lost = [] := by
  have hs := sound_of_start h₀ h
  refine ⟨hs.threads, fun n hn => ⟨?_, hs.permits n hn⟩, hs.proceeds,
    ⟨hs.nodup_handedOver, hs.nodup_dispatched, fun j => hs.due_of_mem_handedOver⟩, fun hd => ?_,
    hs.drains, hs.lost⟩
  · have := hs.permits n hn
    omega
  · obtain ⟨hticking, hlaunches, hqueued, hgranted⟩ := hs.of_drained hd
    have hlaunched := hs.launched
    have hjobs := hs.jobs
    rw [hlaunches] at hlaunched
    rw [hqueued, hgranted] at hjobs
    exact ⟨hticking, hlaunches, hlaunched, hqueued, hgranted, hjobs⟩

/-- A limit of zero is a limit of one.  Two jobs are dispatched after the loop has ended; the second
is handed over first and leaves its thread by a panic, and the other one runs with the same permit
after the executor is drained. -/
theorem two_jobs_through_one_permit :
    let everyMinute : Pattern :=
      ⟨"* * * * *", [⟨.always, .always, .always, .always, .always, .always⟩]⟩
    let table : Columns Unit :=
      ⟨[.named "a", .named "b"], [everyMinute, everyMinute], [(), ()]⟩
    let steps : List (Step Unit) :=
      [.tick 0, .endLoop, .launch 0 table (.localTime (.fixed 0)), .release, .release,
        .acquire 1, .handOver 0, .leave 0 (.unwound .nonText), .release,
        .acquire 0, .handOver 0, .release, .drain, .tearDown, .leave 0 (.reported .succeeded)]
    ∃ e₀ e : Executor Unit, start (some 0) false = .ok e₀ ∧ runSteps step e₀ steps = some e ∧
      e.drained = true ∧ e.handedOver = [⟨0, 1, .named "b"⟩, ⟨0, 0, .named "a"⟩] ∧
      e.handedOver.Perm (e.dispatches.flatMap Dispatch.jobs) ∧ e.lost = [] := by
  intro everyMinute table steps
  let e₀ : Executor Unit :=
    ⟨some 0, false, 1, 1, true, [], [], [], [], [], 0, [], [], [], false, []⟩
  have h₀ : start (some 0) false = .ok e₀ := rfl
  have hseen : (runSteps step e₀ steps).map (fun e => (e.drained, e.handedOver)) =
      some (true, [⟨0, 1, .named "b"⟩, ⟨0, 0, .named "a"⟩]) := by decide
  obtain ⟨e, he, hview⟩ := Option.map_eq_some_iff.1 hseen
  obtain ⟨hdrained, hhandedOver⟩ := Prod.mk.inj hview
  obtain ⟨-, -, -, -, hall, -, hlost⟩ := executor_loses_nothing h₀ he
  exact ⟨e₀, e, h₀, he, hdrained, hhandedOver, (hall hdrained).2.2.2.2.2, hlost⟩

end Executor

end Crontab
