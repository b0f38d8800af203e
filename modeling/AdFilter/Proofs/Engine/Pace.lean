import AdFilter.Proofs.Engine.Report
import AdFilter.Proofs.Fetch.Progress

/-!
# How much is done until some time

At each tick the scheduler begins a pass, and a pass has a limited number of steps; so what the
scheduler can do until some time is limited as well (`Scheduler.stepsBy`), and everything that it
does is one step less (`System.stepsBy_stepScheduler_lt`). While time goes by, the loop therefore
does all that is due (`System.dueBy?_follow_eq_none`): no tick is passed over.
-/

namespace AdFilter

/-- What is due at some time is still so then. -/
theorem Pass.due?_self {f : Fetcher} {p : Pass} {now time : Nat} (h : p.due? f now = some time) :
    p.due? f time = some time := by
  rw [Pass.due?] at h ⊢
  split at h
  · rename_i hroom
    rw [if_pos hroom]
  · rename_i hfull
    rw [if_neg hfull]
    obtain ⟨⟨j, rest⟩, hj, rfl⟩ := Option.map_eq_some_iff.mp h
    rw [hj, Option.map_some, Option.some.injEq]
    exact Nat.max_eq_left (Nat.le_max_right _ _)

theorem Scheduler.due?_self {f : Fetcher} {now time : Nat} {sch : Scheduler}
    (h : sch.due? f now = some time) : sch.due? f time = some time := by
  rw [Scheduler.due?] at h ⊢
  cases hphase : sch.phase with
  | failed =>
    rw [hphase] at h
    cases h
  | busy p =>
    rw [hphase] at h
    exact Pass.due?_self h
  | idle =>
    rw [hphase, Option.some.injEq] at h
    dsimp only
    split at h
    · rename_i hqueued
      rw [if_pos hqueued]
    · rename_i hqueued
      rw [if_neg hqueued, ← h, Option.some.injEq]
      exact Nat.max_eq_left (Nat.le_max_right _ _)

/-- How many steps a scheduler can make until some time at most, if no pass has more steps than
given: at each tick it begins a pass, and it may have one under way and another one to begin. -/
def Scheduler.stepsBy (steps stop : Nat) (sch : Scheduler) : Nat :=
  match sch.phase with
  | .failed => 0
  | .idle => (stop + 1 - sch.next) * (steps + 1) + sch.queued.toNat * (steps + 1)
  | .busy p =>
    p.stepsLeft + ((stop + 1 - sch.next) * (steps + 1) + sch.queued.toNat * (steps + 1))

namespace Scheduler

variable {f : Fetcher} {sch : Scheduler} {steps stop now : Nat}

theorem stepsBy_of_hasFailed (h : sch.hasFailed = true) : sch.stepsBy steps stop = 0 := by
  rw [hasFailed] at h
  rw [stepsBy]
  cases hphase : sch.phase with
  | failed => rfl
  | idle =>
    rw [hphase] at h
    cases h
  | busy p =>
    rw [hphase] at h
    cases h

/-- When a tick is taken there is one less to come, enough for the pass that it begins. -/
theorem stepsBy_takeTick_lt (hphase : sch.phase = .idle) (hperiod : 0 < sch.period)
    (hnext : sch.next ≤ stop) :
    steps + sch.takeTick.stepsBy steps stop < sch.stepsBy steps stop := by
  have hticks : stop + 1 - (sch.next + sch.period) + 1 ≤ stop + 1 - sch.next := by omega
  have hmul := Nat.mul_le_mul_right (steps + 1) hticks
  rw [Nat.add_one_mul] at hmul
  rw [stepsBy, stepsBy, takeTick, hphase]
  dsimp only
  omega

theorem stepsBy_of_queued (hphase : sch.phase = .idle) (hqueued : sch.queued = true) :
    sch.stepsBy steps stop = (stop + 1 - sch.next) * (steps + 1) + (steps + 1) := by
  rw [stepsBy, hphase, hqueued, Bool.toNat_true, Nat.one_mul]

/-- When a request is taken there is none left, and no tick more to come: enough for the pass that
it begins. -/
theorem stepsBy_takeRequest_lt (hphase : sch.phase = .idle) (hqueued : sch.queued = true)
    (hnext : sch.next ≤ now + sch.period) (hgoesOn : (sch.takeRequest now).phase = .idle) :
    steps + (sch.takeRequest now).stepsBy steps stop < sch.stepsBy steps stop := by
  have hticks := Nat.mul_le_mul_right (steps + 1) (Nat.sub_le_sub_left hnext (stop + 1))
  rw [stepsBy_of_queued hphase hqueued]
  rw [takeRequest] at hgoesOn ⊢
  split at hgoesOn
  · rename_i hlater
    rw [if_pos hlater, stepsBy, hgoesOn]
    dsimp only
    rw [Bool.toNat_false, Nat.zero_mul]
    omega
  · cases hgoesOn

theorem IsRegular.stepsBy_le (h : sch.IsRegular f now)
    (hsteps : (Fetcher.attempts + 1) * f.sources.length ≤ steps) : sch.stepsBy steps stop ≤
      steps + ((stop + 1 - sch.next) * (steps + 1) + (steps + 1)) := by
  have hqueued := Nat.mul_le_mul_right (steps + 1) (Bool.toNat_le sch.queued)
  rw [stepsBy]
  cases hphase : sch.phase with
  | failed => exact Nat.zero_le _
  | idle =>
    dsimp only
    omega
  | busy p =>
    have hpass : p.stepsLeft ≤ steps := Nat.le_trans (h.pass p hphase).isOf.stepsLeft_le hsteps
    dsimp only
    omega

end Scheduler

namespace System

variable {s t : System} {sch : Scheduler} {steps stop : Nat}

/-- How many steps a pass has at most. -/
def passSteps (s : System) : Nat := (Fetcher.attempts + 1) * s.engine.fetcher.sources.length

/-- To begin a pass changes nothing but the scheduler. -/
theorem startScheduled_frame (s : System) (sch : Scheduler) :
    let first := Pass.start s.engine.fetcher
    (s.startScheduled sch).pass = s.pass ∧ (s.startScheduled sch).reporter = s.reporter ∧
      (s.startScheduled sch).engine.fetcher = s.engine.fetcher ∧
      (s.startScheduled sch).clock = s.clock ∧ (s.startScheduled sch).files = s.files ∧
      (s.startScheduled sch).scheduler =
        some { sch with phase := if first.isDone then .idle else .busy first } := by
  rw [startScheduled]
  dsimp only
  split <;> exact ⟨rfl, rfl, rfl, rfl, rfl, rfl⟩

/-- The scheduler leaves alone what is not its own. -/
theorem stepScheduler_frame (s : System) (sch : Scheduler) :
    (s.stepScheduler sch).pass = s.pass ∧ (s.stepScheduler sch).reporter = s.reporter ∧
      (s.stepScheduler sch).engine.fetcher = s.engine.fetcher ∧
      (s.stepScheduler sch).clock = s.clock := by
  have hstart : ∀ c : Scheduler, (s.startScheduled c).pass = s.pass ∧
      (s.startScheduled c).reporter = s.reporter ∧
      (s.startScheduled c).engine.fetcher = s.engine.fetcher ∧
      (s.startScheduled c).clock = s.clock := by
    intro c
    obtain ⟨hpass, hreporter, hfetcher, hclock, -⟩ := startScheduled_frame s c
    exact ⟨hpass, hreporter, hfetcher, hclock⟩
  rw [stepScheduler]
  cases sch.phase with
  | failed => exact ⟨rfl, rfl, rfl, rfl⟩
  | busy p =>
    dsimp only
    rcases p.step s.engine.fetcher s.clock.moment s.stock with ⟨q, st⟩
    dsimp only
    split <;> exact ⟨rfl, rfl, rfl, rfl⟩
  | idle =>
    dsimp only
    split
    · exact hstart _
    · split
      · split
        · exact ⟨rfl, rfl, rfl, rfl⟩
        · exact hstart _
      · exact ⟨rfl, rfl, rfl, rfl⟩

/-- A scheduler that begins a pass has fewer steps left than one with a tick or a request more to
come. -/
theorem stepsBy_startScheduled (hphase : sch.phase = .idle) :
    (t.startScheduled sch).scheduler.elim 0 (Scheduler.stepsBy t.passSteps stop) ≤
      t.passSteps + sch.stepsBy t.passSteps stop := by
  have hsteps : (Pass.start t.engine.fetcher).stepsLeft = t.passSteps := by
    rw [Pass.stepsLeft, Pass.start, List.map_nil, List.sum_nil, Nat.add_zero]
    rfl
  rw [startScheduled]
  dsimp only
  split
  · rw [Option.elim_some, Scheduler.stepsBy, Scheduler.stepsBy, hphase]
    exact Nat.le_add_left _ _
  · rw [Option.elim_some, Scheduler.stepsBy, Scheduler.stepsBy, hphase]
    dsimp only
    rw [hsteps]

/-- What the scheduler does is one step less to be made. -/
theorem stepsBy_stepScheduler_lt (ht : t.IsRegular) (hstop : t.clock.timer ≤ stop)
    (hsch : t.scheduler = some sch)
    (hdue : sch.due? t.engine.fetcher t.clock.timer = some t.clock.timer) :
    (t.stepScheduler sch).scheduler.elim 0 (Scheduler.stepsBy t.passSteps stop) <
      sch.stepsBy t.passSteps stop := by
  have hregular := ht.scheduler sch hsch
  rw [stepScheduler]
  cases hphase : sch.phase with
  | failed =>
    rw [Scheduler.due?, hphase] at hdue
    cases hdue
  | busy q =>
    have hq := hregular.pass q hphase
    obtain ⟨made, hmove⟩ := Pass.step_move hq.isDone_eq (f := t.engine.fetcher) t.clock.moment
      t.stock
    have hless := hmove.stepsLeft_lt fun j hj => (hq.isOf.attempt_bounds j hj).2
    dsimp only
    rcases hnext : q.step t.engine.fetcher t.clock.moment t.stock with ⟨q', st⟩
    rw [hnext] at hless
    dsimp only at hless ⊢
    split
    · rw [Option.elim_some, Scheduler.stepsBy, Scheduler.stepsBy, hphase]
      exact Nat.lt_add_of_pos_left (Nat.lt_of_le_of_lt (Nat.zero_le _) hless)
    · rw [Option.elim_some, Scheduler.stepsBy, Scheduler.stepsBy, hphase]
      exact Nat.add_lt_add_right hless _
  | idle =>
    dsimp only
    split
    · rename_i htick
      have hperiod : 0 < sch.period := hregular.period_pos (by rw [Scheduler.hasFailed, hphase])
      exact Nat.lt_of_le_of_lt (stepsBy_startScheduled hphase)
        (Scheduler.stepsBy_takeTick_lt hphase hperiod (Nat.le_trans htick hstop))
    · rename_i hnotick
      split
      · rename_i hqueued
        cases hafter : (sch.takeRequest t.clock.timer).phase with
        | failed =>
          -- the next tick cannot be told, and nothing more is done
          rw [if_pos (by rw [Scheduler.hasFailed, hafter]), Option.elim_some, Scheduler.stepsBy,
            hafter, Scheduler.stepsBy_of_queued hphase hqueued]
          exact Nat.lt_of_lt_of_le (Nat.succ_pos _) (Nat.le_add_left _ _)
        | idle =>
          rw [if_neg (by rw [Scheduler.hasFailed, hafter]; exact Bool.false_ne_true)]
          exact Nat.lt_of_le_of_lt (stepsBy_startScheduled hafter)
            (Scheduler.stepsBy_takeRequest_lt hphase hqueued hregular.next_le hafter)
        | busy q =>
          rw [Scheduler.takeRequest] at hafter
          split at hafter
          · rw [hphase] at hafter
            cases hafter
          · cases hafter
      · -- nothing would be due
        rename_i hqueued
        rw [Scheduler.due?, hphase] at hdue
        dsimp only at hdue
        rw [if_neg hqueued, Option.some.injEq] at hdue
        omega

/-! ## While time goes by -/

theorem step_clock (s : System) (time : Nat) (e : Event) :
    (s.step time e).clock = { s.clock with timer := time } := by
  cases e with
  | pass p =>
    rw [step]
    dsimp only
    rw [stepPass]
    dsimp only
    split <;> rfl
  | scheduler sch =>
    obtain ⟨-, -, -, hclock⟩ :=
      stepScheduler_frame { s with clock := { s.clock with timer := time } } sch
    exact hclock
  | reporter r => rfl

/-- No pass begins that was not asked for. -/
theorem pass_step {x : Nat × Event} (hx : x ∈ s.events) (hpass : s.pass = none) :
    (s.step x.1 x.2).pass = none := by
  rcases mem_events_iff.mp hx with ⟨p, time, hp, -⟩ | ⟨sch, time, -, -, rfl⟩ | ⟨r, -, rfl⟩
  · rw [hpass] at hp
    cases hp
  · obtain ⟨hsame, -⟩ := stepScheduler_frame { s with clock := { s.clock with timer := time } } sch
    exact hsame.trans hpass
  · exact hpass

/-- What is known of a system while time goes by until some moment, and no pass was asked for
directly. -/
structure Waits (stop : Nat) (t : System) : Prop where
  isRegular : t.IsRegular
  pass_eq : t.pass = none
  timer_le : t.clock.timer ≤ stop

/-- How many steps can be made until some time at most: those of the scheduler, and a summary at
each moment. -/
def stepsBy (stop : Nat) (t : System) : Nat :=
  t.scheduler.elim 0 (Scheduler.stepsBy t.passSteps stop) +
    t.reporter.elim 0 fun r => stop + 1 - r.next

/-- What is done is one step less to be made. -/
theorem Waits.step (h : t.Waits stop) {x : Nat × Event} (hx : dueBy? stop t = some x) :
    (t.step x.1 x.2).Waits stop ∧ (t.step x.1 x.2).stepsBy stop < t.stepsBy stop := by
  obtain ⟨hfirst, hle⟩ := Option.filter_eq_some_iff.mp hx
  have hle : x.1 ≤ stop := of_decide_eq_true hle
  have hmem := mem_of_earliest? hfirst
  have hstep := step_leads h.isRegular hmem
  refine ⟨⟨hstep.isRegular, pass_step hmem h.pass_eq, ?_⟩, ?_⟩
  · rw [step_clock]
    exact hle
  · have hwait : t.Leads { t with clock := { t.clock with timer := x.1 } } fun _ => False :=
      Leads.of_eq h.isRegular rfl rfl rfl rfl rfl (le_of_mem_events hmem) rfl
    rw [stepsBy, stepsBy, passSteps, hstep.fetcher_eq, ← passSteps]
    rcases mem_events_iff.mp hmem with
      ⟨p, time, hp, -⟩ | ⟨sch, time, hsch, hdue, rfl⟩ | ⟨r, hr, rfl⟩
    · rw [h.pass_eq] at hp
      cases hp
    · have hless := stepsBy_stepScheduler_lt hwait.isRegular hle hsch (Scheduler.due?_self hdue)
      obtain ⟨-, hreporter, -⟩ :=
        stepScheduler_frame { t with clock := { t.clock with timer := time } } sch
      have hreporter : (t.step time (.scheduler sch)).reporter = t.reporter := hreporter
      dsimp only
      rw [hreporter, hsch]
      exact Nat.add_lt_add_right hless _
    · have hpos := h.isRegular.interval_pos r hr
      have hreporter : (t.step (max t.clock.timer r.next) (.reporter r)).reporter =
          some { r with next := r.next + r.interval } := rfl
      have hscheduler : (t.step (max t.clock.timer r.next) (.reporter r)).scheduler =
          t.scheduler := rfl
      dsimp only at hle ⊢
      rw [hreporter, hscheduler, hr, Option.elim_some, Option.elim_some]
      dsimp only
      omega

/-- With enough fuel the loop does all that is due. -/
theorem Waits.follow {fuel : Nat} (h : t.Waits stop) (hfuel : t.stepsBy stop < fuel) :
    (follow (dueBy? stop) fuel t).Waits stop ∧
      dueBy? stop (follow (dueBy? stop) fuel t) = none := by
  induction fuel generalizing t with
  | zero => cases hfuel
  | succ fuel ih =>
    rw [System.follow]
    rcases hdue : dueBy? stop t with _ | ⟨time, e⟩
    · exact ⟨h, hdue⟩
    · obtain ⟨hwaits, hless⟩ := h.step hdue
      exact ih hwaits (Nat.lt_of_lt_of_le hless (Nat.le_of_lt_succ hfuel))

/-- While time goes by, all is done that is due, if the first tick is not due from the beginning of
time. -/
theorem dueBy?_follow_eq_none (hs : s.IsRegular) (hpass : s.pass = none)
    (hnext : ∀ sch, s.scheduler = some sch → sch.hasFailed = false → 0 < sch.next)
    (hstop : s.clock.timer ≤ stop) :
    let t := follow (dueBy? stop) (s.stepsWithin (stop - s.clock.timer)) s.deliver
    t.Waits stop ∧ dueBy? stop t = none := by
  obtain ⟨-, hfetcher, hclock, hscheduler, hreporter, hpass', -⟩ := deliver_frame s
  have hwaits : s.deliver.Waits stop :=
    ⟨(deliver_leads hs (fun _ => False)).isRegular, hpass'.trans hpass, by rwa [hclock]⟩
  refine hwaits.follow ?_
  rw [stepsBy, passSteps, hfetcher, ← passSteps, hscheduler, hreporter]
  have hsched : s.scheduler.elim 0 (Scheduler.stepsBy s.passSteps stop) ≤
      s.passSteps + (stop * (s.passSteps + 1) + (s.passSteps + 1)) := by
    rcases hsch : s.scheduler with _ | sch
    · exact Nat.zero_le _
    · rw [Option.elim_some]
      cases hfailed : sch.hasFailed with
      | true =>
        rw [Scheduler.stepsBy_of_hasFailed hfailed]
        exact Nat.zero_le _
      | false =>
        have hpos := hnext sch hsch hfailed
        have hticks : (stop + 1 - sch.next) * (s.passSteps + 1) ≤ stop * (s.passSteps + 1) :=
          Nat.mul_le_mul_right _ (by omega)
        exact Nat.le_trans ((hs.scheduler sch hsch).stepsBy_le (Nat.le_refl _))
          (Nat.add_le_add_left (Nat.add_le_add_right hticks _) _)
  have hsummaries : (s.reporter.elim 0 fun r => stop + 1 - r.next) ≤ stop + 1 := by
    rcases s.reporter with _ | r
    · exact Nat.zero_le _
    · exact Nat.sub_le _ _
  have hfuel : s.stepsWithin (stop - s.clock.timer) = (stop + 2) * (s.passSteps + 1 + 2) := by
    rw [stepsWithin, Nat.sub_add_cancel hstop, passSteps]
  have hproduct : (stop + 2) * (s.passSteps + 1 + 2) =
      stop * (s.passSteps + 1) + stop * 2 + 2 * (s.passSteps + 1 + 2) := by
    rw [Nat.add_mul, Nat.mul_add]
  rw [hfuel, hproduct]
  omega

/-- An idle scheduler is due at its next tick, or at once if it was asked for a pass. -/
theorem mem_events_of_idle (hsch : t.scheduler = some sch) (hphase : sch.phase = .idle) :
    (if sch.queued then t.clock.timer else max t.clock.timer sch.next, .scheduler sch) ∈
      t.events :=
  mem_events_iff.mpr (Or.inr (Or.inl ⟨sch, _, hsch, by rw [Scheduler.due?, hphase], rfl⟩))

/-- If nothing is due until some time, the next tick comes after it. -/
theorem lt_next_of_dueBy?_eq_none (h : dueBy? stop t = none) (hsch : t.scheduler = some sch)
    (hphase : sch.phase = .idle) (hstop : t.clock.timer ≤ stop) : stop < sch.next := by
  have hmem := mem_events_of_idle hsch hphase
  obtain ⟨x, hfirst⟩ := exists_earliest? (List.ne_nil_of_mem hmem)
  have hle := le_of_earliest? hfirst _ hmem
  rw [dueBy?, hfirst, Option.filter_eq_none_iff] at h
  have hlate := h x rfl
  rw [decide_eq_true_iff] at hlate
  dsimp only at hle
  split at hle <;> omega

end System

end AdFilter
