import AdFilter.Proofs.Engine.Pace

/-!
# A refresh pass from its start to its end

While a pass that was asked for directly is under way, the scheduler may make passes as well, and
summaries may be due. `System.refresh` goes on until the pass is done, in whatever state it begins:
the fuel of its loop never runs out (`System.exists_refresh`), for what can be done before the pass
is over is limited (`System.stepsLeft`). If the scheduler has nothing to do in the meantime
(`System.IsQuiet`), what the pass leaves is what a run of the pass leaves.
-/

namespace AdFilter

namespace System

/-- The time by which a pass that begins now is over. -/
def passEnd (s : System) : Nat := s.clock.timer + longestJob * s.engine.fetcher.sources.length

/-- The dates in the course of a pass that begins now. -/
def passDates (s : System) (date : Int) : Prop :=
  ∃ time, s.clock.timer ≤ time ∧ time ≤ s.passEnd ∧ s.clock.wall time = date

/-- Whether the scheduler has nothing to do in the course of a pass that begins now. -/
def IsQuiet (s : System) : Prop :=
  ∀ sch, s.scheduler = some sch → sch.hasFailed = true ∨
    (sch.phase = .idle ∧ sch.queued = false ∧ s.passEnd < sch.next)

variable {s t : System} {p : Pass} {reports : List Report}

/-! ## Under way -/

/-- What is known of a system while a pass is under way that began in another. -/
structure InPass (s : System) (reports : List Report) (p : Pass) (t : System) : Prop where
  isRegular : t.IsRegular
  pass_eq : t.pass = some p
  fetcher_eq : t.engine.fetcher = s.engine.fetcher
  wall_eq : t.clock.wall = s.clock.wall
  timer_le : s.clock.timer ≤ t.clock.timer
  latest_le : p.latest t.clock.timer ≤ s.passEnd
  finished_eq : p.finished = (reports.filter fun r => !r.scheduled).map (·.status)
  run : s.IsQuiet → t.scheduler = s.scheduler ∧ (∀ r ∈ reports, r.scheduled = false) ∧
    ∃ log, Pass.Run s.engine.fetcher s.passDates s.stock log p t.stock

/-- What is known of a system after the pass. -/
structure AfterPass (s : System) (reports : List Report) (p : Pass) (t : System) : Prop where
  pass_eq : t.pass = none
  isOf : p.IsOf s.engine.fetcher
  isDone_eq : p.isDone = true
  statuses_eq : t.engine.statuses = p.statuses
  finished_eq : p.finished = (reports.filter fun r => !r.scheduled).map (·.status)
  run : s.IsQuiet → (∀ r ∈ reports, r.scheduled = false) ∧
    ∃ log, Pass.Run s.engine.fetcher s.passDates s.stock log p t.stock

/-- How many steps the loop can still make: those of the pass, those of the scheduler, and a summary
at each moment. -/
def stepsLeft (s : System) (p : Pass) (t : System) : Nat :=
  p.stepsLeft + (t.scheduler.elim 0 (Scheduler.stepsBy s.passSteps s.passEnd) +
    t.reporter.elim 0 fun r => s.passEnd + 1 - r.next)

namespace InPass

theorem timer_le_passEnd (h : s.InPass reports p t) : t.clock.timer ≤ s.passEnd :=
  Nat.le_trans (Pass.le_latest p _) h.latest_le

theorem isUnderWay (h : s.InPass reports p t) : p.IsUnderWay t.engine.fetcher :=
  h.isRegular.pass p h.pass_eq

end InPass

/-! ## What is due first -/

/-- While a pass is under way, something is due: no later than the pass itself. -/
theorem InPass.exists_due (h : s.InPass reports p t) :
    ∃ x, dueInPass? t = some x ∧ x ∈ t.events ∧
      (∀ j ∈ p.running, x.1 ≤ max t.clock.timer j.due) ∧
      (p.running = [] → x.1 = t.clock.timer) := by
  obtain ⟨due, hdue, -, hrunning, hidle⟩ :=
    Pass.exists_due? h.isUnderWay.isDone_eq t.clock.timer (f := t.engine.fetcher)
  have hmem : (due, Event.pass p) ∈ t.events :=
    mem_events_iff.mpr (Or.inl ⟨p, due, h.pass_eq, hdue, rfl⟩)
  obtain ⟨x, hfirst⟩ := exists_earliest? (List.ne_nil_of_mem hmem)
  have hx := mem_of_earliest? hfirst
  have hle : x.1 ≤ due := le_of_earliest? hfirst _ hmem
  refine ⟨x, ?_, hx, fun j hj => Nat.le_trans hle (hrunning j hj), fun hnil =>
    Nat.le_antisymm (Nat.le_trans hle (Nat.le_of_eq (hidle hnil))) (le_of_mem_events hx)⟩
  rw [dueInPass?, h.pass_eq]
  exact hfirst

/-! ## Steps -/

/-- First the clock goes to the time of the step. -/
theorem InPass.wait (h : s.InPass reports p t) {time : Nat} (hnow : t.clock.timer ≤ time)
    (hdue : ∀ j ∈ p.running, time ≤ max t.clock.timer j.due)
    (hidle : p.running = [] → time = t.clock.timer) :
    s.InPass reports p { t with clock := { t.clock with timer := time } } := by
  have hwait : t.Leads { t with clock := { t.clock with timer := time } } fun _ => False :=
    Leads.of_eq h.isRegular rfl rfl rfl rfl rfl hnow rfl
  exact ⟨hwait.isRegular, h.pass_eq, h.fetcher_eq, h.wall_eq, Nat.le_trans h.timer_le hnow,
    Nat.le_trans (Pass.latest_mono hnow hdue hidle) h.latest_le, h.finished_eq, h.run⟩

theorem filter_not_scheduled (b : Bool) (xs : List SourceStatus) :
    (((xs.map (Report.mk b)).filter fun r => !r.scheduled).map (·.status)) =
      if b then [] else xs := by
  cases b with
  | true =>
    rw [if_pos rfl, List.map_eq_nil_iff, List.filter_eq_nil_iff]
    intro r hr
    obtain ⟨x, -, rfl⟩ := List.mem_map.mp hr
    exact Bool.false_ne_true
  | false =>
    rw [if_neg Bool.false_ne_true, List.filter_eq_self.mpr, List.map_map]
    · exact List.map_id xs
    · intro r hr
      obtain ⟨x, -, rfl⟩ := List.mem_map.mp hr
      rfl

/-- What is reported by the scheduler is not what the pass has come to know. -/
theorem InPass.finished_append
    (h : p.finished = (reports.filter fun r => !r.scheduled).map (·.status)) (b : Bool)
    (xs : List SourceStatus) :
    ((reports ++ xs.map (Report.mk b)).filter fun r => !r.scheduled).map (·.status) =
      p.finished ++ if b then [] else xs := by
  rw [List.filter_append, List.map_append, ← h, filter_not_scheduled]

theorem stepPass_of_step {q : Pass} {st : Stock}
    (h : p.step t.engine.fetcher t.clock.moment t.stock = (q, st)) :
    t.stepPass p = if q.isDone then { (t.withStock st).finishPass q with pass := none }
      else { t.withStock st with pass := some q } := by
  rw [stepPass, h]

/-- A step of the pass ends it or is one step less to be made. -/
theorem InPass.stepPass (h : s.InPass reports p t) : ∃ q,
    s.AfterPass (reports ++ (t.passEnded p).map (Report.mk false)) q (t.stepPass p) ∨
      (s.InPass (reports ++ (t.passEnded p).map (Report.mk false)) q (t.stepPass p) ∧
        stepsLeft s q (t.stepPass p) < stepsLeft s p t) := by
  have hunder := h.isUnderWay
  obtain ⟨made, hmove⟩ := Pass.step_move hunder.isDone_eq (f := t.engine.fetcher) t.clock.moment
    t.stock
  have hregular := (stepPass_leads h.isRegular hunder).isRegular
  have hfinished := finished_append h.finished_eq false (t.passEnded p)
  rw [if_neg Bool.false_ne_true] at hfinished
  rw [passEnded] at hfinished ⊢
  rcases hnext : p.step t.engine.fetcher t.clock.moment t.stock with ⟨q, st⟩
  rw [hnext] at hmove hfinished
  dsimp only at hfinished
  rw [← hmove.finished_eq] at hfinished
  have hof := hmove.isOf hunder.isOf
  have hlatest := Nat.le_trans hmove.latest_le h.latest_le
  have hless := hmove.stepsLeft_lt fun j hj => (hunder.isOf.attempt_bounds j hj).2
  have hdate : s.passDates t.clock.moment.wall := by
    refine ⟨t.clock.timer, h.timer_le, h.timer_le_passEnd, ?_⟩
    rw [← h.wall_eq]
    rfl
  rw [h.fetcher_eq] at hmove hof
  have hrun : s.IsQuiet → t.scheduler = s.scheduler ∧
      (∀ r ∈ reports ++ (p.ended q).map (Report.mk false), r.scheduled = false) ∧
      ∃ log, Pass.Run s.engine.fetcher s.passDates s.stock log q st := by
    intro hquiet
    obtain ⟨hscheduler, hreports, log, hrun⟩ := h.run hquiet
    refine ⟨hscheduler, fun r hr => ?_, _, hrun.move hdate hmove⟩
    rcases List.mem_append.mp hr with hr | hr
    · exact hreports r hr
    · obtain ⟨x, -, rfl⟩ := List.mem_map.mp hr
      rfl
  refine ⟨q, ?_⟩
  rw [stepPass_of_step hnext] at hregular ⊢
  rcases hdone : q.isDone with _ | _
  · rw [hdone, if_neg Bool.false_ne_true] at hregular
    rw [if_neg Bool.false_ne_true]
    refine Or.inr ⟨⟨hregular, rfl, h.fetcher_eq, h.wall_eq, h.timer_le, hlatest,
      hfinished.symm, hrun⟩, ?_⟩
    exact Nat.add_lt_add_right hless _
  · rw [if_pos rfl]
    exact Or.inl ⟨rfl, hof, hdone, rfl, hfinished.symm, fun hquiet => (hrun hquiet).2⟩

/-- A summary is one step less to be made. -/
theorem InPass.stepReporter (h : s.InPass reports p t) {r : Reporter} (hr : t.reporter = some r)
    (hnext : r.next ≤ t.clock.timer) : s.InPass reports p (t.stepReporter r) ∧
      stepsLeft s p (t.stepReporter r) < stepsLeft s p t := by
  have hpos := h.isRegular.interval_pos r hr
  have hend := h.timer_le_passEnd
  refine ⟨⟨⟨h.isRegular.isTree, h.isRegular.pass, h.isRegular.scheduler, ?_⟩, h.pass_eq,
    h.fetcher_eq, h.wall_eq, h.timer_le, h.latest_le, h.finished_eq, h.run⟩, ?_⟩
  · intro r' hr'
    cases hr'
    exact hpos
  · have hafter : stepsLeft s p (t.stepReporter r) = p.stepsLeft +
        (t.scheduler.elim 0 (Scheduler.stepsBy s.passSteps s.passEnd) +
          (s.passEnd + 1 - (r.next + r.interval))) := rfl
    rw [hafter, stepsLeft, hr, Option.elim_some]
    omega

/-- What is known of a system while a pass is under way is not changed by what the scheduler does,
which is not asleep then. -/
theorem InPass.of_scheduler (h : s.InPass reports p t) {u : System} (xs : List SourceStatus)
    (hregular : u.IsRegular) (hpass : u.pass = t.pass)
    (hfetcher : u.engine.fetcher = t.engine.fetcher) (hclock : u.clock = t.clock)
    (hbusy : ¬ s.IsQuiet) : s.InPass (reports ++ xs.map (Report.mk true)) p u := by
  refine ⟨hregular, hpass.trans h.pass_eq, hfetcher.trans h.fetcher_eq, ?_, ?_, ?_, ?_,
    fun hquiet => absurd hquiet hbusy⟩
  · rw [hclock, h.wall_eq]
  · rw [hclock]
    exact h.timer_le
  · rw [hclock]
    exact h.latest_le
  · rw [finished_append h.finished_eq true xs, if_pos rfl, List.append_nil]

/-- What a step of the scheduler reports comes from its own pass. -/
theorem exists_stepReports_scheduler (t : System) (time : Nat) (sch : Scheduler) :
    ∃ xs : List SourceStatus, t.stepReports time (.scheduler sch) = xs.map (Report.mk true) := by
  rw [stepReports]
  cases sch.phase with
  | idle => exact ⟨[], rfl⟩
  | busy p => exact ⟨_, rfl⟩
  | failed => exact ⟨[], rfl⟩

/-- In a quiet system the scheduler does nothing before the pass is over. -/
theorem InPass.not_isQuiet (h : s.InPass reports p t) {sch : Scheduler}
    (hsch : t.scheduler = some sch)
    (hdue : sch.due? t.engine.fetcher t.clock.timer = some t.clock.timer) : ¬ s.IsQuiet := by
  intro hquiet
  have hend := h.timer_le_passEnd
  rw [(h.run hquiet).1] at hsch
  rw [Scheduler.due?] at hdue
  rcases hquiet sch hsch with hfailed | ⟨hphase, hqueued, hnext⟩
  · rw [Scheduler.hasFailed] at hfailed
    cases hphase : sch.phase with
    | failed =>
      rw [hphase] at hdue
      cases hdue
    | idle =>
      rw [hphase] at hfailed
      cases hfailed
    | busy q =>
      rw [hphase] at hfailed
      cases hfailed
  · rw [hphase, hqueued] at hdue
    have htimer : max t.clock.timer sch.next = t.clock.timer := Option.some.inj hdue
    omega

/-- Whatever is due next, it ends the pass or is one step less to be made. -/
theorem InPass.step (h : s.InPass reports p t) {x : Nat × Event} (hx : x ∈ t.events)
    (hrunning : ∀ j ∈ p.running, x.1 ≤ max t.clock.timer j.due)
    (hidle : p.running = [] → x.1 = t.clock.timer) : ∃ q,
    s.AfterPass (reports ++ t.stepReports x.1 x.2) q (t.step x.1 x.2) ∨
      (s.InPass (reports ++ t.stepReports x.1 x.2) q (t.step x.1 x.2) ∧
        stepsLeft s q (t.step x.1 x.2) < stepsLeft s p t) := by
  have hwait := h.wait (le_of_mem_events hx) hrunning hidle
  have hregular := (step_leads h.isRegular hx).isRegular
  rcases mem_events_iff.mp hx with
    ⟨q, time, hq, -, rfl⟩ | ⟨sch, time, hsch, hdue, rfl⟩ | ⟨r, hr, rfl⟩
  · rw [h.pass_eq] at hq
    cases hq
    exact hwait.stepPass
  · have hdue' := Scheduler.due?_self hdue
    have hless := stepsBy_stepScheduler_lt hwait.isRegular hwait.timer_le_passEnd hsch hdue'
    rw [passSteps, hwait.fetcher_eq, ← passSteps] at hless
    obtain ⟨hpass, hreporter, hfetcher, hclock⟩ :=
      stepScheduler_frame { t with clock := { t.clock with timer := time } } sch
    refine ⟨p, Or.inr ⟨?_, ?_⟩⟩
    · obtain ⟨xs, hreports⟩ := exists_stepReports_scheduler t time sch
      dsimp only
      rw [hreports]
      exact hwait.of_scheduler _ hregular hpass hfetcher hclock (hwait.not_isQuiet hsch hdue')
    · have hreporter : (t.step time (.scheduler sch)).reporter = t.reporter := hreporter
      dsimp only
      rw [stepsLeft, stepsLeft, hreporter, hsch]
      exact Nat.add_lt_add_left (Nat.add_lt_add_right hless _) _
  · obtain ⟨hon, hless⟩ := hwait.stepReporter hr (Nat.le_max_right _ _)
    refine ⟨p, Or.inr ⟨?_, hless⟩⟩
    rw [stepReports, List.append_nil]
    exact hon

/-! ## The whole pass -/

/-- Once the pass is done the loop stands still. -/
theorem AfterPass.follow_eq (h : s.AfterPass reports p t) (fuel : Nat) :
    follow dueInPass? fuel t = t ∧ followReports dueInPass? fuel t = [] := by
  have hnone : dueInPass? t = none := by
    rw [dueInPass?, h.pass_eq]
    rfl
  cases fuel with
  | zero => exact ⟨rfl, rfl⟩
  | succ fuel =>
    rw [follow, followReports, hnone]
    exact ⟨rfl, rfl⟩

/-- With enough fuel the loop goes on until the pass is done. -/
theorem InPass.exists_follow {fuel : Nat} (h : s.InPass reports p t)
    (hfuel : stepsLeft s p t < fuel) : ∃ q, s.AfterPass
      (reports ++ followReports dueInPass? fuel t) q (follow dueInPass? fuel t) := by
  induction fuel generalizing reports p t with
  | zero => cases hfuel
  | succ fuel ih =>
    obtain ⟨⟨time, e⟩, hdue, hx, hrunning, hidle⟩ := h.exists_due
    rw [follow, followReports, hdue]
    dsimp only
    rw [← List.append_assoc]
    obtain ⟨q, hafter | ⟨hon, hless⟩⟩ := h.step hx hrunning hidle
    · obtain ⟨hstill, hsilent⟩ := hafter.follow_eq fuel
      dsimp only at hstill hsilent
      rw [hstill, hsilent, List.append_nil]
      exact ⟨q, hafter⟩
    · exact ih hon (Nat.lt_of_lt_of_le hless (Nat.le_of_lt_succ hfuel))

theorem inPass_beginPass (hs : s.IsRegular)
    (hdone : ¬ (Pass.start s.deliver.engine.fetcher).isDone = true) :
    s.InPass [] (Pass.start s.engine.fetcher) s.beginPass := by
  obtain ⟨hstock, hfetcher, hclock, hscheduler, -⟩ := deliver_frame s
  have htimer : s.beginPass.clock.timer = s.clock.timer := congrArg Clock.timer hclock
  refine ⟨(beginPass_leads hs (fun _ => False) hdone).isRegular,
    congrArg (fun f => some (Pass.start f)) hfetcher, hfetcher, congrArg Clock.wall hclock,
    Nat.le_of_eq htimer.symm, ?_, rfl, fun _ => ⟨hscheduler,
      fun r hr => (by cases hr), [], ?_⟩⟩
  · rw [htimer]
    exact Nat.le_refl _
  · have hsame : s.beginPass.stock = s.stock := hstock
    rw [hsame]
    exact .start

theorem stepsLeft_lt_passFuel (hs : s.IsRegular) :
    stepsLeft s (Pass.start s.engine.fetcher) s.beginPass < s.passFuel := by
  obtain ⟨-, hfetcher, hclock, hscheduler, hreporter, -⟩ := deliver_frame s
  have hsched : s.beginPass.scheduler.elim 0 (Scheduler.stepsBy s.passSteps s.passEnd) ≤
      s.passSteps + ((s.passEnd + 1) * (s.passSteps + 1) + (s.passSteps + 1)) := by
    have hsame : s.beginPass.scheduler = s.scheduler := hscheduler
    rw [hsame]
    rcases hsch : s.scheduler with _ | sch
    · exact Nat.zero_le _
    · have hticks := Nat.mul_le_mul_right (s.passSteps + 1) (Nat.sub_le (s.passEnd + 1) sch.next)
      exact Nat.le_trans ((hs.scheduler sch hsch).stepsBy_le (Nat.le_refl _))
        (Nat.add_le_add_left (Nat.add_le_add_right hticks _) _)
  have hsummaries : (s.beginPass.reporter.elim 0 fun r => s.passEnd + 1 - r.next) ≤
      s.passEnd + 1 := by
    rcases s.beginPass.reporter with _ | r
    · exact Nat.zero_le _
    · exact Nat.sub_le _ _
  have hpass : (Pass.start s.engine.fetcher).stepsLeft ≤ s.passSteps :=
    (Pass.isOf_start _).stepsLeft_le
  -- a pass takes longer than it has steps
  have hlong : 2 * s.passSteps ≤ s.passEnd := by
    have hattempts : Fetcher.attempts = 3 := rfl
    have hjob : longestJob = 6000 := rfl
    rw [passSteps, passEnd, hattempts, hjob]
    omega
  have hfuel : s.passFuel = (s.passEnd + 1 + 1) * (s.passSteps + 1 + 2) := by
    rw [passFuel, stepsWithin, hfetcher, hclock, passEnd, passSteps,
      Nat.add_comm s.clock.timer]
  have hproduct : (s.passEnd + 1 + 1) * (s.passSteps + 1 + 2) =
      (s.passEnd + 1) * (s.passSteps + 1) + (s.passEnd + 1) * 2 + (s.passSteps + 1 + 2) := by
    rw [Nat.add_one_mul, Nat.mul_add]
  rw [hfuel, hproduct, stepsLeft]
  omega

/-- A refresh pass makes its steps until it is done, whatever else goes on. -/
theorem exists_refresh (hs : s.IsRegular) : ∃ p, p.IsOf s.engine.fetcher ∧ p.isDone = true ∧
    s.refresh.engine.statuses = p.statuses ∧
    p.finished = (s.refreshReports.filter fun r => !r.scheduled).map (·.status) ∧
    (s.IsQuiet → (∀ r ∈ s.refreshReports, r.scheduled = false) ∧
      ∃ log, Pass.Run s.engine.fetcher s.passDates s.stock log p s.refresh.stock) := by
  obtain ⟨hstock, hfetcher, -, -, -⟩ := deliver_frame s
  rw [refresh_eq, refreshReports]
  by_cases hdone : (Pass.start s.deliver.engine.fetcher).isDone = true
  · -- there are no lists
    rw [if_pos hdone, if_pos hdone]
    rw [hfetcher] at hdone ⊢
    refine ⟨Pass.start s.engine.fetcher, Pass.isOf_start _, hdone, rfl, rfl,
      fun _ => ⟨fun r hr => (by cases hr), [], ?_⟩⟩
    have hsame : (s.deliver.finishPass (Pass.start s.engine.fetcher)).stock = s.stock := hstock
    rw [hsame]
    exact .start
  · rw [if_neg hdone, if_neg hdone]
    obtain ⟨p, hafter⟩ := (inPass_beginPass hs hdone).exists_follow (stepsLeft_lt_passFuel hs)
    exact ⟨p, hafter.isOf, hafter.isDone_eq, hafter.statuses_eq, hafter.finished_eq, hafter.run⟩

/-- When a refresh is over, no pass is under way that was asked for directly. -/
theorem pass_refresh (hs : s.IsRegular) (hpass : s.pass = none) : s.refresh.pass = none := by
  obtain ⟨-, -, -, -, -, hsame, -⟩ := deliver_frame s
  rw [refresh_eq]
  by_cases hdone : (Pass.start s.deliver.engine.fetcher).isDone = true
  · rw [if_pos hdone]
    exact hsame.trans hpass
  · rw [if_neg hdone]
    obtain ⟨p, hafter⟩ := (inPass_beginPass hs hdone).exists_follow (stepsLeft_lt_passFuel hs)
    exact hafter.pass_eq

end System

end AdFilter
