import AdFilter.Proofs.Engine.Requests

/-!
# The timetable of the scheduler

The first tick is due one period after the scheduler wakes, and every other one a period after the
one before it, even if that one was taken late. A request that is taken puts the next tick off until
a period after it. So from each such moment on, the ticks that have been taken are no more than the
periods that have gone by (`Timetable.counted`), and if no request was taken since, an idle
scheduler with no tick due has taken exactly as many. `Task.timetable_spec` says so of all runs,
however long the passes are and in whatever order what is ready comes.
-/

namespace AdFilter

/-- Whether ticks are counted anew: the scheduler wakes, or takes a request. -/
def TaskEvent.Resets : TaskEvent → Prop
  | .woke | .began true | .failed => True
  | _ => False

namespace TaskLog

variable {log more before after : TaskLog} {a x : Nat × TaskEvent}

theorem times_nil (e : TaskEvent) : times [] e = 0 := rfl

theorem times_append (e : TaskEvent) : times (log ++ more) e = times log e + times more e := by
  rw [times, List.map_append, List.count_append, ← times, ← times]

theorem times_cons_of_ne {e : TaskEvent} (h : a.2 ≠ e) : times (a :: log) e = times log e := by
  rw [times, List.map_cons, List.count_cons_of_ne h, ← times]

theorem begun_append : begun (log ++ more) = begun log + begun more := by
  rw [begun, begun, begun, times_append, times_append]
  omega

/-- Where a log is split that is one event longer: at this event, or before it. -/
theorem concat_eq_append_cons (h : log ++ [x] = before ++ a :: after) :
    (log = before ∧ x = a ∧ after = []) ∨
      ∃ rest, after = rest ++ [x] ∧ log = before ++ a :: rest := by
  rcases List.eq_nil_or_concat after with rfl | ⟨rest, y, rfl⟩
  · obtain ⟨hlog, hx⟩ := List.append_singleton_inj.mp h
    exact Or.inl ⟨hlog, hx, rfl⟩
  · rw [List.concat_eq_append, ← List.cons_append, ← List.append_assoc] at h
    obtain ⟨hlog, rfl⟩ := List.append_singleton_inj.mp h
    exact Or.inr ⟨rest, List.concat_eq_append, hlog⟩

end TaskLog

open TaskLog

/-! ## Ticks since some moment -/

/-- What is true of the ticks that were taken since they were counted anew, while another one is
due next and the scheduler has failed or not. -/
structure Counted (period base next now : Nat) (failed : Bool) (after : TaskLog) : Prop where
  le_now : base + times after (.began false) * period ≤ now
  le_next : failed = false → base + (times after (.began false) + 1) * period ≤ next
  next_eq : failed = false → (∀ a ∈ after, ¬ a.2.Resets) →
    next = base + (times after (.began false) + 1) * period
  le_tick : ∀ a ∈ after, a.2 = .began false → base + period ≤ a.1

namespace Counted

variable {period base next next' now now' : Nat} {failed failed' : Bool} {after : TaskLog}

theorem nil (period base : Nat) (failed : Bool) :
    Counted period base (base + period) base failed [] where
  le_now := by
    rw [times_nil, Nat.zero_mul]
    exact Nat.le_refl _
  le_next _ := by
    rw [times_nil, Nat.zero_add, Nat.one_mul]
  next_eq _ _ := by
    rw [times_nil, Nat.zero_add, Nat.one_mul]
  le_tick _ ha := absurd ha List.not_mem_nil

/-- An event more that is no tick. It may put the next tick off. -/
theorem concat (h : Counted period base next now failed after) {e : TaskEvent}
    (he : e ≠ .began false) (hnow : now ≤ now') (hfailed : failed' = false → failed = false)
    (hnext : failed' = false → next ≤ next')
    (hsame : failed' = false → ¬ e.Resets → next' = next) :
    Counted period base next' now' failed' (after ++ [(now', e)]) where
  le_now := by
    rw [times_concat, if_neg he]
    exact Nat.le_trans h.le_now hnow
  le_next hgoes := by
    rw [times_concat, if_neg he]
    exact Nat.le_trans (h.le_next (hfailed hgoes)) (hnext hgoes)
  next_eq hgoes hlast := by
    rw [times_concat, if_neg he]
    have hnone : ¬ e.Resets := hlast (now', e) (List.mem_append_right _ (List.mem_singleton_self _))
    rw [hsame hgoes hnone]
    exact h.next_eq (hfailed hgoes) fun a ha => hlast a (List.mem_append_left _ ha)
  le_tick a ha htick := by
    rcases List.mem_append.mp ha with ha | ha
    · exact h.le_tick a ha htick
    · obtain rfl := List.mem_singleton.mp ha
      exact absurd htick he

/-- A tick that is due is taken. -/
theorem tick (h : Counted period base next now false after) (hdue : next ≤ now) :
    Counted period base (next + period) now false (after ++ [(now, .began false)]) where
  le_now := by
    rw [times_concat, if_pos rfl]
    exact Nat.le_trans (h.le_next rfl) hdue
  le_next _ := by
    have := h.le_next rfl
    rw [times_concat, if_pos rfl, Nat.add_one_mul]
    omega
  next_eq _ hlast := by
    have := h.next_eq rfl fun a ha => hlast a (List.mem_append_left _ ha)
    rw [times_concat, if_pos rfl, Nat.add_one_mul]
    omega
  le_tick a ha htick := by
    rcases List.mem_append.mp ha with ha | ha
    · exact h.le_tick a ha htick
    · obtain rfl := List.mem_singleton.mp ha
      have := h.le_next rfl
      rw [Nat.add_one_mul] at this
      dsimp only
      omega

theorem base_le (h : Counted period base next now failed after) : base ≤ now :=
  Nat.le_trans (Nat.le_add_right _ _) h.le_now

theorem times_le (h : Counted period base next now failed after) (hperiod : 0 < period) :
    times after (.began false) ≤ (now - base) / period :=
  (Nat.le_div_iff_mul_le hperiod).mpr (Nat.le_sub_of_add_le' h.le_now)

/-- As many ticks were taken as periods have gone by just if no tick is due. -/
theorem times_eq_iff (h : Counted period base next now false after) (hperiod : 0 < period)
    (hlast : ∀ a ∈ after, ¬ a.2.Resets) :
    times after (.began false) = (now - base) / period ↔ now < next := by
  rw [h.next_eq rfl hlast, ← Nat.sub_lt_iff_lt_add' h.base_le, ← Nat.div_lt_iff_lt_mul hperiod]
  have := h.times_le hperiod
  omega

end Counted

/-! ## Along a run -/

/-- What is true of a run that began at some time, of each moment since which ticks are counted. -/
structure Timetable (start period next now : Nat) (failed : Bool) (log : TaskLog) : Prop where
  start_le : start ≤ now
  next_le : failed = false → next ≤ now + period
  counted : ∀ before base e after, log = before ++ (base, e) :: after → e.Resets →
    start ≤ base ∧ Counted period base next now failed after

namespace Timetable

variable {start period next next' now now' : Nat} {failed failed' : Bool} {log : TaskLog}
  {e : TaskEvent}

theorem nil (period start : Nat) : Timetable start period start start false [] where
  start_le := Nat.le_refl _
  next_le _ := Nat.le_add_right _ _
  counted before base e after hlog := by
    rcases before with _ | ⟨a, before⟩ <;> cases hlog

/-- An event by which the ticks are not counted anew. -/
theorem aside (h : Timetable start period next now failed log) (he : ¬ e.Resets)
    (htick : e ≠ .began false) (hnow : now ≤ now') :
    Timetable start period next now' failed (log ++ [(now', e)]) where
  start_le := Nat.le_trans h.start_le hnow
  next_le hgoes := Nat.le_trans (h.next_le hgoes) (Nat.add_le_add_right hnow _)
  counted before base d after hlog hd := by
    rcases concat_eq_append_cons hlog with ⟨-, hlast, -⟩ | ⟨rest, rfl, hsplit⟩
    · rw [(Prod.mk.inj hlast).2] at he
      exact absurd hd he
    · obtain ⟨hstart, hcounted⟩ := h.counted before base d rest hsplit hd
      exact ⟨hstart, hcounted.concat htick hnow id (fun _ => Nat.le_refl _) fun _ _ => rfl⟩

/-- A tick that is due is taken. -/
theorem tick (h : Timetable start period next now false log) (hdue : next ≤ now) :
    Timetable start period (next + period) now false (log ++ [(now, .began false)]) where
  start_le := h.start_le
  next_le _ := Nat.add_le_add_right hdue _
  counted before base d after hlog hd := by
    rcases concat_eq_append_cons hlog with ⟨-, hlast, -⟩ | ⟨rest, rfl, hsplit⟩
    · rw [← (Prod.mk.inj hlast).2] at hd
      exact hd.elim
    · obtain ⟨hstart, hcounted⟩ := h.counted before base d rest hsplit hd
      exact ⟨hstart, hcounted.tick hdue⟩

/-- The ticks are counted anew: the next one is due after a period, unless the scheduler has
failed. -/
theorem reset (h : Timetable start period next now failed log) (he : e.Resets)
    (hgoes : failed' = false → failed = false ∧ next' = now + period) :
    Timetable start period next' now failed' (log ++ [(now, e)]) where
  start_le := h.start_le
  next_le hfailed := Nat.le_of_eq (hgoes hfailed).2
  counted before base d after hlog hd := by
    rcases concat_eq_append_cons hlog with ⟨-, hlast, rfl⟩ | ⟨rest, rfl, hsplit⟩
    · obtain ⟨rfl, -⟩ := Prod.mk.inj hlast
      have hnil := Counted.nil period now failed'
      exact ⟨h.start_le, hnil.le_now,
        fun hfailed => (hgoes hfailed).2 ▸ hnil.le_next hfailed,
        fun hfailed hnone => (hgoes hfailed).2.trans (hnil.next_eq hfailed hnone), hnil.le_tick⟩
    · obtain ⟨hstart, hcounted⟩ := h.counted before base d rest hsplit hd
      refine ⟨hstart, hcounted.concat ?_ (Nat.le_refl _) (fun hfailed => (hgoes hfailed).1)
        (fun hfailed => ?_) fun _ hnone => absurd he hnone⟩
      · rintro rfl
        exact he
      · obtain ⟨hbefore, hnext⟩ := hgoes hfailed
        rw [hnext]
        exact h.next_le hbefore

theorem ending (h : Timetable start period next now failed log) (p : Pass) :
    Timetable start period next now failed (log ++ p.ending.map (now, ·)) := by
  rw [Pass.ending]
  split
  · exact h.aside id (by rintro ⟨⟩) (Nat.le_refl _)
  · rw [List.map_nil, List.append_nil]
    exact h

end Timetable

namespace Task

variable {s u : System} {period : Nat} {log : TaskLog} {t t' : Task} {sch sch' : Scheduler}
  {events : List TaskEvent} {stage : TaskStage} {stopping : Bool}

/-- The ticks of a run are on the timetable. -/
def IsPunctual (s : System) (period : Nat) (log : TaskLog) (t : Task) (sch : Scheduler) : Prop :=
  Timetable s.clock.timer period sch.next t.system.clock.timer sch.hasFailed log

/-- The scheduler has a pass under way that may be done. -/
theorem IsPunctual.goOn {p : Pass}
    (h : Timetable s.clock.timer period sch.next u.clock.timer false log) :
    ∃ sch', (u.goOn sch p).scheduler = some sch' ∧
      IsPunctual s period (log ++ p.ending.map ((u.goOn sch p).clock.timer, ·))
        ⟨u.goOn sch p, stage, stopping⟩ sch' := by
  obtain ⟨hscheduler, -, hclock⟩ := System.goOn_frame u sch p
  refine ⟨_, hscheduler, ?_⟩
  rw [IsPunctual, hclock]
  rcases hdone : p.isDone with _ | _ <;> exact h.ending p

/-- A pass is begun. -/
theorem IsPunctual.begin {asked : Bool}
    (h : Timetable s.clock.timer period sch.next u.clock.timer false
      (log ++ [(u.clock.timer, .began asked)])) :
    ∃ sch', (u.startScheduled sch).scheduler = some sch' ∧ IsPunctual s period
      (log ++ (.began asked :: (Pass.start u.engine.fetcher).ending).map
        ((u.startScheduled sch).clock.timer, ·))
      ⟨u.startScheduled sch, stage, stopping⟩ sch' := by
  have hclock := (System.goOn_frame u sch (Pass.start u.engine.fetcher)).2.2
  rw [List.map_cons, List.append_cons, System.startScheduled_eq]
  refine goOn ?_
  rw [hclock]
  exact h

theorem IsPunctual.move (hsch : t.IsAccounted s period log sch) (h : t.IsPunctual s period log sch)
    (hmove : Move t events t') :
    ∃ sch', t'.system.scheduler = some sch' ∧
      t'.IsPunctual s period (log ++ events.map (t'.system.clock.timer, ·)) sch' := by
  have hsame {c : Scheduler} (hc : t.system.scheduler = some c) : sch = c :=
    Option.some.inj (hsch.scheduler_eq.symm.trans hc)
  rw [IsPunctual] at h
  cases hmove with
  | @wake u c stopping hc =>
    obtain rfl := hsame hc
    refine ⟨_, rfl, h.reset trivial fun _ => ?_⟩
    exact ⟨Scheduler.hasFailed_of_idle (hsch.starting rfl), by rw [← hsch.period_eq]; rfl⟩
  | @ask u u' accepted stage stopping hgoing htrigger =>
    rw [System.trigger_eq hsch.scheduler_eq] at htrigger
    obtain ⟨-, rfl⟩ := Prod.mk.inj htrigger
    refine ⟨_, rfl, ?_⟩
    rcases sch.trigger_cases with ⟨htrigger, -⟩ | ⟨htrigger, -, -⟩ <;>
      exact htrigger ▸ h.aside id (by rintro ⟨⟩) (Nat.le_refl _)
  | @tick u c stopping hc hidle hdue =>
    obtain rfl := hsame hc
    rw [Scheduler.hasFailed_of_idle hidle] at h
    refine begin ?_
    rw [Scheduler.takeTick, hsch.period_eq]
    exact h.tick hdue
  | @take u c stopping hc hidle hqueued hgoes =>
    obtain rfl := hsame hc
    rw [Scheduler.hasFailed_of_idle hidle] at h
    rcases sch.takeRequest_cases u.clock.timer with htake | ⟨-, htake⟩
    · rw [htake]
      refine begin (h.reset trivial fun _ => ⟨rfl, ?_⟩)
      rw [← hsch.period_eq]
    · rw [htake] at hgoes
      cases hgoes
  | @fail u c stopping hc hidle hqueued hfails =>
    obtain rfl := hsame hc
    refine ⟨_, rfl, h.reset trivial fun hgoes => ?_⟩
    rw [hfails] at hgoes
    cases hgoes
  | @work u c p made q st stopping hc hbusy hmove =>
    obtain rfl := hsame hc
    rw [show sch.hasFailed = false by rw [Scheduler.hasFailed, hbusy]] at h
    exact goOn h
  | tell hgoing =>
    exact ⟨sch, hsch.scheduler_eq, h.aside id (by rintro ⟨⟩) (Nat.le_refl _)⟩
  | stop hc hready =>
    exact ⟨sch, hsch.scheduler_eq, h.aside id (by rintro ⟨⟩) (Nat.le_refl _)⟩
  | other hleaves =>
    exact ⟨sch, hleaves.scheduler_eq.trans hsch.scheduler_eq,
      h.aside id (by rintro ⟨⟩) hleaves.timer_le⟩

theorem Run.exists_isPunctual (h : Run (Task.start s period) log t) :
    ∃ sch, t.IsAccounted s period log sch ∧ t.IsPunctual s period log sch := by
  induction h with
  | start => exact ⟨_, isAccounted_start s period, .nil period s.clock.timer⟩
  | move _ hmove ih =>
    obtain ⟨sch, haccount, hpunctual⟩ := ih
    obtain ⟨c, haccount'⟩ := haccount.move hmove
    obtain ⟨c', hc', hpunctual'⟩ := hpunctual.move haccount hmove
    obtain rfl := Option.some.inj (haccount'.scheduler_eq.symm.trans hc')
    exact ⟨c, haccount', hpunctual'⟩

/-- No pass is begun before the scheduler wakes. -/
theorem Run.woke_cases (h : Run (Task.start s period) log t) :
    (t.stage = .starting ∧ begun log = 0) ∨
      ∃ before base after, log = before ++ (base, .woke) :: after ∧ begun before = 0 := by
  induction h with
  | start => exact Or.inl ⟨rfl, rfl⟩
  | @move log t events t' _ hmove ih =>
    rcases ih with ⟨hstage, hnone⟩ | ⟨before, base, after, rfl, hnone⟩
    · have hnot {e : TaskEvent} (he : ∀ asked, e ≠ .began asked) (time : Nat) :
          begun (log ++ [(time, e)]) = 0 := by
        rw [begun_append, hnone, begun, times_cons_of_ne (he true), times_cons_of_ne (he false)]
        rfl
      cases hmove with
      | wake hc => exact Or.inr ⟨log, _, [], rfl, hnone⟩
      | ask hgoing htrigger => exact Or.inl ⟨hstage, hnot (by rintro _ ⟨⟩) _⟩
      | tell hgoing => exact Or.inl ⟨hstage, hnot (by rintro _ ⟨⟩) _⟩
      | other hleaves => exact Or.inl ⟨hstage, hnot (by rintro _ ⟨⟩) _⟩
      | tick => cases hstage
      | take => cases hstage
      | fail => cases hstage
      | work => cases hstage
      | stop => cases hstage
    · rw [List.append_assoc, List.cons_append]
      exact Or.inr ⟨before, base, _, rfl, hnone⟩

/-- From any moment at which the scheduler wakes or takes a request, the passes begun at ticks are
no more than the periods that have gone by, and none is begun before the first of them is over. If
no request was taken since, an idle scheduler has begun exactly as many, unless a tick is due: so
the ticks that a long pass has delayed are made up for. All in all no more passes are begun than
periods go by after the start and requests are accepted. -/
theorem timetable_spec (h : Run (start s period) log t) (hperiod : 0 < period) :
    ∃ sch, t.system.scheduler = some sch ∧
      ((t.stage = .starting ∧ begun log = 0) ∨
        ∃ before base after, log = before ++ (base, .woke) :: after ∧ begun before = 0) ∧
      (∀ before base e after, log = before ++ (base, e) :: after → e.Resets →
        s.clock.timer ≤ base ∧ base ≤ t.system.clock.timer ∧
        times after (.began false) ≤ (t.system.clock.timer - base) / period ∧
        (∀ a ∈ after, a.2 = .began false → base + period ≤ a.1) ∧
        (sch.phase = .idle → (∀ a ∈ after, ¬ a.2.Resets) →
          (times after (.began false) = (t.system.clock.timer - base) / period ↔
            t.system.clock.timer < sch.next))) ∧
      begun log ≤ (t.system.clock.timer - s.clock.timer) / period + times log (.asked true) := by
  obtain ⟨sch, haccount, hpunctual⟩ := h.exists_isPunctual
  refine ⟨sch, haccount.scheduler_eq, h.woke_cases, fun before base e after hlog he => ?_, ?_⟩
  · obtain ⟨hstart, hcounted⟩ := hpunctual.counted before base e after hlog he
    refine ⟨hstart, hcounted.base_le, hcounted.times_le hperiod, hcounted.le_tick,
      fun hidle hlast => ?_⟩
    rw [Scheduler.hasFailed_of_idle hidle] at hcounted
    exact hcounted.times_eq_iff hperiod hlast
  · rcases h.woke_cases with ⟨-, hnone⟩ | ⟨before, base, after, hlog, hnone⟩
    · rw [hnone]
      exact Nat.zero_le _
    · obtain ⟨hstart, hcounted⟩ := hpunctual.counted before base .woke after hlog trivial
      -- all passes were begun after the scheduler woke
      have hticks : times log (.began false) = times after (.began false) := by
        have hbefore := (Nat.add_eq_zero_iff.mp hnone).2
        rw [hlog, times_append, hbefore, Nat.zero_add, times_cons_of_ne (by rintro ⟨⟩)]
      have hle : times log (.began false) ≤ (t.system.clock.timer - s.clock.timer) / period := by
        rw [hticks]
        exact Nat.le_trans (hcounted.times_le hperiod)
          (Nat.div_le_div_right (Nat.sub_le_sub_left hstart _))
      have hrequests := haccount.account.accepted_eq
      rw [begun]
      omega

/-- If there are no lists, a pass that is begun at a tick is completed at once. -/
theorem exists_move_tick (hdone : (Pass.start u.engine.fetcher).isDone = true)
    (hsch : u.scheduler = some sch) (hidle : sch.phase = .idle) (hdue : sch.next ≤ u.clock.timer) :
    ∃ v, Move ⟨u, .running, false⟩ [.began false, .completed] ⟨v, .running, false⟩ ∧
      v.engine.fetcher = u.engine.fetcher ∧ v.clock = u.clock ∧
      v.scheduler = some { sch with next := sch.next + sch.period } := by
  have htick : Move ⟨u, .running, false⟩ _ _ := .tick hsch hidle hdue
  have hstart : u.startScheduled sch.takeTick =
      { u.finishPass (Pass.start u.engine.fetcher) with
        scheduler := some { sch.takeTick with phase := .idle } } := by
    rw [System.startScheduled_eq, System.goOn, if_pos hdone]
  rw [Pass.ending, if_pos hdone, hstart] at htick
  refine ⟨_, htick, rfl, rfl, ?_⟩
  rw [Scheduler.takeTick, ← hidle]

/-- If nothing is done for two periods and a half, two ticks are made up for then, and the next one
is not due yet. -/
theorem timetable_spec_of_delay : ∃ t sch,
    Run (start resting 1000) [(0, .woke), (2500, .elsewhere 0), (2500, .began false),
      (2500, .completed), (2500, .began false), (2500, .completed)] t ∧
    t.system.scheduler = some sch ∧ sch.phase = .idle ∧ 2500 < sch.next := by
  have hdone : (Pass.start resting.engine.fetcher).isDone = true := by decide +kernel
  have hwake : Move ⟨restingWith ⟨1000, 0, false, .idle⟩, .starting, false⟩ [.woke]
      ⟨restingWith (Scheduler.wake ⟨1000, 0, false, .idle⟩ 0), .running, false⟩ := .wake rfl
  obtain ⟨u, hwait, hu⟩ : ∃ u, (restingWith ⟨1000, 1000, false, .idle⟩).LeavesScheduler 0 u ∧
      u.scheduler = some ⟨1000, 1000, false, .idle⟩ ∧ u.clock.timer = 2500 ∧
        u.engine.fetcher = resting.engine.fetcher :=
    ⟨{ restingWith ⟨1000, 1000, false, .idle⟩ with clock := { resting.clock with timer := 2500 } },
      ⟨rfl, Nat.zero_le _, rfl⟩, rfl, rfl, rfl⟩
  obtain ⟨hscheduler, hlate, hlists⟩ := hu
  rw [← hlists] at hdone
  obtain ⟨v, hfirst, hfetcher, hclock, hv⟩ :=
    exists_move_tick hdone hscheduler rfl (by rw [hlate]; decide)
  obtain ⟨w, hsecond, -, hclock', hw⟩ := exists_move_tick
    (by rw [hfetcher]; exact hdone) hv rfl (by rw [hclock, hlate]; decide)
  have htimer : v.clock.timer = 2500 := (congrArg Clock.timer hclock).trans hlate
  have htimer' : w.clock.timer = 2500 := (congrArg Clock.timer hclock').trans htimer
  have hrun := (((Run.start.move hwake).move (.other hwait)).move hfirst).move hsecond
  dsimp only at hrun
  rw [hlate, htimer, htimer'] at hrun
  obtain ⟨sch, hsch, -, hcounted, -⟩ := timetable_spec hrun (by decide)
  obtain ⟨-, -, -, -, hexact⟩ := hcounted [] 0 .woke _ rfl trivial
  rw [hw] at hsch
  obtain rfl := Option.some.inj hsch
  refine ⟨_, _, hrun, hw, rfl, ?_⟩
  rw [htimer'] at hexact
  refine (hexact rfl ?_).mp rfl
  simp [TaskEvent.Resets]

end Task

end AdFilter
