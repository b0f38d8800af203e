import AdFilter.Proofs.Engine.Concurrency
import AdFilter.Proofs.Engine.Schedule

/-!
# The renewal of the lists

The scheduler makes its passes so that lists do not grow old: `System.renewal_spec` says which lists
a pass downloads again, and how long a list is in use at most. For all of them to be downloaded at
every tick, the period has to be longer than the age up to which a file is young enough, by more
than a pass may last: a period of a day is not (`System.renewal_fails`).
-/

namespace AdFilter

/-- Whether an operation leaves it to the clock, and to requests, when the scheduler begins a pass,
and does not touch what is around the engine. -/
def Operation.LeavesCourse (op : Operation) : Prop :=
  match op with
  | .startScheduler _ | .surround _ _ => False
  | _ => True

namespace System

variable {s t u : System} {everyTick : Bool} {period limit : Nat} {acts : Course}

/-- What is known of a system in the course of a run that began with the start of the scheduler. -/
structure OnCourse (s : System) (everyTick : Bool) (period limit : Nat) (acts : Course)
    (t : System) : Prop where
  isRegular : t.IsRegular
  fetcher_eq : t.engine.fetcher = s.engine.fetcher
  home_eq : t.files.home = s.files.home
  wall_eq : t.clock.wall = s.clock.wall
  begun_le : Course.begun s.clock.timer acts ≤ t.clock.timer
  time_le : ∀ x d, Course.download? x acts = some d → d.time ≤ t.clock.timer ∧
    (everyTick = true → d.time ≤ Course.begun s.clock.timer acts + limit)
  isDated : Course.IsDated s.engine.fetcher s.clock.wall acts t.files
  scheduler : ∀ sch, t.scheduler = some sch →
    sch.IsOnTime s.engine.fetcher everyTick period limit s.clock.timer acts t.clock.timer
  renews : Course.Each (Course.IsRenewed everyTick s.clock.timer) [] acts

/-- What a course must be like for the lists to be renewed: all lists that are left are held in the
cache, and no pass of the scheduler lasts too long. If the lists are to be renewed at every tick,
all downloads have to be made soon after such a pass began. -/
structure GoesWell (s : System) (everyTick : Bool) (limit : Nat) (acts : Course) : Prop where
  isHeld : ∀ a ∈ acts, a.2.IsHeld
  isPrompt : Course.Each (Course.IsInTime everyTick limit s.clock.timer) [] acts

theorem GoesWell.of_append {more : Course} (h : s.GoesWell everyTick limit (acts ++ more)) :
    s.GoesWell everyTick limit acts :=
  ⟨fun b hb => h.isHeld b (List.mem_append_left _ hb), (Course.each_append.mp h.isPrompt).1⟩

theorem GoesWell.last {a : Nat × Act} (h : s.GoesWell everyTick limit (acts ++ [a])) :
    a.2.IsHeld ∧ Course.IsInTime everyTick limit s.clock.timer acts a :=
  ⟨h.isHeld a (List.mem_append_right _ (List.mem_singleton_self a)),
    (Course.each_concat.mp h.isPrompt).2⟩

/-- The lists are such as can be renewed: they have files of their own, and these are dated with a
clock that goes with the timer. If they are to be renewed at every tick, the period is longer than a
day by more than a pass may last. -/
structure CanRenew (s : System) (everyTick : Bool) (period limit : Nat) : Prop where
  places : (s.engine.fetcher.sources.map fun x =>
    s.files.placeOf (s.engine.fetcher.cachePath x)).Nodup
  wall_add : ∀ t k : Nat, s.clock.wall (t + k) = s.clock.wall t + k
  period_gt : everyTick = true → Cache.staleAfter + limit < period

theorem CanRenew.nodup (h : s.CanRenew everyTick period limit) : s.engine.fetcher.sources.Nodup :=
  h.places.of_map _

namespace OnCourse

/-- The same state at a later time, up to the next tick. -/
theorem later (h : s.OnCourse everyTick period limit acts t) {time : Nat}
    (hle : t.clock.timer ≤ time) (hidle : ∀ sch, t.scheduler = some sch → sch.phase = .idle →
      time ≤ max sch.next (Course.begun s.clock.timer acts + limit)) :
    s.OnCourse everyTick period limit acts { t with clock := { t.clock with timer := time } } := by
  have hlater : t.Leads { t with clock := { t.clock with timer := time } } fun _ => False :=
    Leads.of_eq h.isRegular rfl rfl rfl rfl rfl hle rfl
  refine ⟨hlater.isRegular, h.fetcher_eq, h.home_eq, h.wall_eq, Nat.le_trans h.begun_le hle,
    fun x d hd => (h.time_le x d hd).imp_left fun htime => Nat.le_trans htime hle, h.isDated,
    fun sch hsch => ?_, h.renews⟩
  have hon := h.scheduler sch hsch
  exact ⟨hon.isTimed, fun hphase => ⟨hidle sch hsch hphase, (hon.idle hphase).2⟩, hon.busy⟩

/-- Another state at the same time, and with more in its course. -/
theorem sameTime (h : s.OnCourse everyTick period limit acts t) {more : Course}
    (hregular : u.IsRegular) (hfetcher : u.engine.fetcher = t.engine.fetcher)
    (hhome : u.files.home = t.files.home) (hclock : u.clock = t.clock)
    (hbegun : Course.begun s.clock.timer more ≤ t.clock.timer)
    (htime : ∀ x d, Course.download? x more = some d → d.time ≤ t.clock.timer ∧
      (everyTick = true → d.time ≤ Course.begun s.clock.timer more + limit))
    (hdated : Course.IsDated s.engine.fetcher s.clock.wall more u.files)
    (hscheduler : ∀ sch, u.scheduler = some sch →
      sch.IsOnTime s.engine.fetcher everyTick period limit s.clock.timer more t.clock.timer)
    (hrenews : Course.Each (Course.IsRenewed everyTick s.clock.timer) [] more) :
    s.OnCourse everyTick period limit more u := by
  rw [← hclock] at hbegun htime hscheduler
  exact ⟨hregular, hfetcher.trans h.fetcher_eq, hhome.trans h.home_eq,
    (congrArg Clock.wall hclock).trans h.wall_eq, hbegun, htime, hdated, hscheduler, hrenews⟩

/-- A state with the same lists, files and scheduler is as far. -/
theorem of_eq (h : s.OnCourse everyTick period limit acts t) (hregular : u.IsRegular)
    (hfetcher : u.engine.fetcher = t.engine.fetcher) (hfiles : u.files = t.files)
    (hclock : u.clock = t.clock) (hscheduler : u.scheduler = t.scheduler) :
    s.OnCourse everyTick period limit acts u :=
  h.sameTime hregular hfetcher (congrArg Files.home hfiles) hclock h.begun_le h.time_le
    (hfiles ▸ h.isDated) (hscheduler ▸ h.scheduler) h.renews

/-- Time goes by until something is due. -/
theorem wait (h : s.OnCourse everyTick period limit acts t) {x : Nat × Event}
    (hx : earliest? t.events = some x) :
    s.OnCourse everyTick period limit acts { t with clock := { t.clock with timer := x.1 } } := by
  refine h.later (le_of_mem_events (mem_of_earliest? hx)) fun sch hsch hphase => ?_
  -- an idle scheduler is due at its next tick, if not before
  have hnext := ((h.scheduler sch hsch).idle hphase).1
  refine Nat.le_trans (le_of_earliest? hx _ (mem_events_of_idle hsch hphase)) ?_
  dsimp only
  split
  · exact hnext
  · exact Nat.max_le.mpr ⟨hnext, Nat.le_max_left _ _⟩

/-- What a list that is left changes in what is known, whichever pass has left it. -/
theorem left (hr : s.CanRenew everyTick period limit) (h : s.OnCourse everyTick period limit acts t)
    {p q : Pass} {st : Stock} {made : Pass.Log} {scheduled : Bool}
    (hp : p.IsUnderWay t.engine.fetcher)
    (hmove : Pass.Move t.engine.fetcher t.clock.moment p t.stock made q st) {y : SourceStatus}
    (hended : p.ended q = [y]) (hwell : s.GoesWell everyTick limit (acts ++ [(t.clock.timer,
      .left scheduled (Pass.leaving t.engine.fetcher t.clock.moment t.stock st y))])) :
    let acts' := acts ++ [(t.clock.timer,
      .left scheduled (Pass.leaving t.engine.fetcher t.clock.moment t.stock st y))]
    (∀ x d, Course.download? x acts' = some d → d.time ≤ t.clock.timer ∧
      (everyTick = true → d.time ≤ Course.begun s.clock.timer acts' + limit)) ∧
    Course.IsDated s.engine.fetcher s.clock.wall acts' st.files ∧
    ∀ d, Course.download? y.source acts = some d →
      y.outcome = some .downloaded ∨ t.clock.timer ≤ d.time + Cache.staleAfter := by
  intro acts'
  obtain ⟨hheld, hintime⟩ := hwell.last
  have hplaces := hr.places
  have hdated := h.isDated
  have hwall : t.clock.moment.wall = s.clock.wall t.clock.moment.timer := congrFun h.wall_eq _
  rw [← h.fetcher_eq] at hplaces hdated ⊢
  refine ⟨fun x d hd => ?_, ?_, ?_⟩
  · rw [Course.begun_concat]
    rcases Course.download?_concat_left hd with ⟨-, hdownloaded, rfl⟩ | ⟨-, hd⟩
    · exact ⟨Nat.le_refl _, fun hevery => hintime (Or.inr ⟨hevery, hdownloaded⟩)⟩
    · exact h.time_le x d hd
  · refine hdated.move h.isRegular.isTree hp.isOf ?_ hmove hwall hended hheld
    simp only [stock_files, Files.placeOf_congr h.home_eq]
    exact hplaces
  · exact hdated.downloaded_or_le hr.wall_add hp.isOf hmove hwall hended hheld fun d hd =>
      (h.time_le _ d hd).1

/-- A step of a pass that was asked for directly. -/
theorem stepPass (hr : s.CanRenew everyTick period limit)
    (h : s.OnCourse everyTick period limit acts t) {p : Pass} (hp : t.pass = some p)
    (hwell : s.GoesWell everyTick limit (acts ++ t.passActs false p)) :
    s.OnCourse everyTick period limit (acts ++ t.passActs false p) (t.stepPass p) := by
  have hunder := h.isRegular.pass p hp
  have hleads := stepPass_leads h.isRegular hunder
  obtain ⟨hclock, hscheduler⟩ := stepPass_frame t p
  have hfiles := congrArg Stock.files (stepPass_stock t p)
  obtain ⟨made, hmove, ⟨hacts, -, -, hsame⟩ | ⟨y, hended, hacts⟩⟩ := passActs_cases hunder false
  · rw [hacts, List.append_nil]
    exact h.of_eq hleads.isRegular hleads.fetcher_eq (hfiles.trans hsame) hclock hscheduler
  · rw [hacts] at hwell ⊢
    obtain ⟨htime, hdated, hrenewed⟩ := h.left hr hunder hmove hended hwell
    refine h.sameTime hleads.isRegular hleads.fetcher_eq hleads.grows.home_eq hclock ?_ htime ?_
      (fun sch hsch => ?_) (Course.each_concat.mpr ⟨h.renews, fun d hd => ?_⟩)
    · rw [Course.begun_concat]
      exact h.begun_le
    · rw [← stock_files, stepPass_stock]
      exact hdated
    · rw [hscheduler] at hsch
      exact (h.scheduler sch hsch).left h.begun_le _
    · exact (hrenewed d hd).imp_right fun hyoung =>
        ⟨hyoung, fun _ hscheduled => absurd hscheduled Bool.false_ne_true⟩

/-- A step of a pass of the scheduler. -/
theorem stepBusy (hr : s.CanRenew everyTick period limit)
    (h : s.OnCourse everyTick period limit acts t) {sch : Scheduler} {p : Pass}
    (hsch : t.scheduler = some sch) (hphase : sch.phase = .busy p)
    (hwell : s.GoesWell everyTick limit (acts ++ t.passActs true p)) :
    s.OnCourse everyTick period limit (acts ++ t.passActs true p) (t.stepScheduler sch) := by
  have hunder := (h.isRegular.scheduler sch hsch).pass p hphase
  have hleads := stepScheduler_leads h.isRegular hsch
  obtain ⟨-, -, -, hclock⟩ := stepScheduler_frame t sch
  obtain ⟨hfiles, hscheduler⟩ := stepScheduler_of_busy (s := t) hphase
  have hon := h.scheduler sch hsch
  have htimed := hon.isTimed (by rw [Scheduler.hasFailed, hphase])
  have hattends := hon.busy p hphase
  obtain ⟨made, hmove, ⟨hacts, hfinished, hdone, hsame⟩ | ⟨y, hended, hacts⟩⟩ :=
    passActs_cases hunder true
  · -- the pass goes on, and has left no more
    rw [hacts, List.append_nil]
    rw [hdone, if_neg Bool.false_ne_true] at hscheduler
    refine h.sameTime hleads.isRegular hleads.fetcher_eq hleads.grows.home_eq hclock h.begun_le
      h.time_le ?_ (fun c hc => ?_) h.renews
    · rw [hfiles, hsame]
      exact h.isDated
    · rw [hscheduler] at hc
      cases hc
      refine ⟨fun _ => htimed.of_eq rfl rfl, fun hidle => (by cases hidle), fun q hq => ?_⟩
      cases hq
      refine ⟨?_, ?_⟩
      · rw [hfinished]
        exact hattends.renewed
      · rw [hfinished]
        exact hattends.due
  · rw [hacts] at hwell ⊢
    obtain ⟨htime, hdated, hrenewed⟩ := h.left hr hunder hmove hended hwell
    have hnodup := hr.nodup
    rw [← h.fetcher_eq] at hnodup hattends
    obtain ⟨hattends, hnew⟩ :=
      hattends.move hnodup hunder.isOf hmove hended h.begun_le hrenewed
    refine h.sameTime hleads.isRegular hleads.fetcher_eq hleads.grows.home_eq hclock ?_ htime ?_
      (fun c hc => ?_) (Course.each_concat.mpr ⟨h.renews, fun d hd => ?_⟩)
    · rw [Course.begun_concat]
      exact h.begun_le
    · rw [hfiles]
      exact hdated
    · rw [hscheduler] at hc
      cases hc
      rw [← h.fetcher_eq]
      refine ⟨fun _ => ?_, fun hidle => ?_, fun q hq => ?_⟩
      · rw [Course.begun_concat]
        exact htimed.of_eq rfl rfl
      · -- the pass is over: it has left all lists, and in time
        dsimp only at hidle
        split at hidle
        · rename_i hdone
          have hsources := (hmove.isOf hunder.isOf).finished_perm hdone
          rw [Course.begun_concat]
          refine ⟨?_, fun x hx d hd => ?_⟩
          · exact Nat.le_trans (hwell.last.2 (Or.inl rfl)) (Nat.le_max_right _ _)
          · exact hattends.renewed x hx d hd (hsources.mem_iff.mpr hx)
        · cases hidle
      · dsimp only at hq
        split at hq
        · cases hq
        · cases hq
          rw [Course.begun_concat]
          exact hattends
    · exact (hrenewed d hd).elim Or.inl fun hyoung => (hnew d hd).imp_right fun hmeanwhile =>
        ⟨hyoung, fun hevery _ => hmeanwhile hevery⟩

/-- The scheduler begins a pass. -/
theorem startScheduled (h : s.OnCourse everyTick period limit acts t) {sch : Scheduler}
    (hregular : (t.startScheduled sch).IsRegular) {act : Act}
    (hact : act = .tick ∨ act = .request)
    (hbegins : sch.IsTimed period limit t.clock.timer ∧ ∀ x ∈ s.engine.fetcher.sources, ∀ d,
      Course.download? x (acts ++ [(t.clock.timer, act)]) = some d →
        d.IsDue everyTick (max period limit) t.clock.timer
          (Course.byTick (acts ++ [(t.clock.timer, act)]))) :
    s.OnCourse everyTick period limit (acts ++ [(t.clock.timer, act)]) (t.startScheduled sch) := by
  obtain ⟨-, -, hfetcher, hclock, hfiles, hscheduler⟩ := startScheduled_frame t sch
  obtain ⟨htimed, hdue⟩ := hbegins
  have hbegun : Course.begun s.clock.timer (acts ++ [(t.clock.timer, act)]) = t.clock.timer := by
    rw [Course.begun_concat]
    rcases hact with rfl | rfl <;> rfl
  -- to begin a pass is no download
  have hbefore : ∀ x d, Course.download? x (acts ++ [(t.clock.timer, act)]) = some d →
      ∃ e, Course.download? x acts = some e ∧ d.time = e.time := by
    intro x d hd
    rw [Course.download?_concat] at hd
    rcases hact with rfl | rfl
    · exact ⟨d, hd, rfl⟩
    · obtain ⟨e, he, rfl⟩ := Option.map_eq_some_iff.mp hd
      exact ⟨e, he, rfl⟩
  refine h.sameTime hregular hfetcher (congrArg Files.home hfiles) hclock (Nat.le_of_eq hbegun)
    (fun x d hd => ?_) (fun x hx d hd => ?_) (fun c hc => ?_)
    (Course.each_concat.mpr ⟨h.renews, ?_⟩)
  · obtain ⟨e, he, htime⟩ := hbefore x d hd
    rw [hbegun, htime]
    have hpast := (h.time_le x e he).1
    exact ⟨hpast, fun _ => Nat.le_trans hpast (Nat.le_add_right _ _)⟩
  · obtain ⟨e, he, htime⟩ := hbefore x d hd
    rw [hfiles, htime]
    exact h.isDated x hx e he
  · rw [hscheduler] at hc
    cases hc
    rw [h.fetcher_eq]
    exact Scheduler.isOnTime_of_isDue htimed hbegun hdue
  · rcases hact with rfl | rfl <;> trivial

/-- What the scheduler does. -/
theorem stepScheduler (hr : s.CanRenew everyTick period limit)
    (h : s.OnCourse everyTick period limit acts t) {sch : Scheduler} (hsch : t.scheduler = some sch)
    (hwell : s.GoesWell everyTick limit (acts ++ t.schedulerActs sch)) :
    s.OnCourse everyTick period limit (acts ++ t.schedulerActs sch) (t.stepScheduler sch) := by
  have hregular := (stepScheduler_leads h.isRegular hsch).isRegular
  have hon := h.scheduler sch hsch
  cases hphase : sch.phase with
  | failed =>
    rw [schedulerActs, hphase, System.stepScheduler, hphase]
    dsimp only
    rwa [List.append_nil]
  | busy p =>
    rw [schedulerActs, hphase] at hwell ⊢
    exact h.stepBusy hr hsch hphase hwell
  | idle =>
    rw [System.stepScheduler, hphase] at hregular ⊢
    rw [schedulerActs, hphase]
    dsimp only at hregular ⊢
    by_cases htick : sch.next ≤ t.clock.timer
    · rw [if_pos htick] at hregular ⊢
      rw [if_pos htick]
      exact h.startScheduled hregular (Or.inl rfl)
        (hon.tick hr.period_gt hphase htick fun hevery x d hd => (h.time_le x d hd).2 hevery)
    · rw [if_neg htick] at hregular ⊢
      rw [if_neg htick]
      cases hqueued : sch.queued with
      | false =>
        rw [Bool.false_and, if_neg Bool.false_ne_true, if_neg Bool.false_ne_true, List.append_nil]
        exact h
      | true =>
        rw [hqueued, if_pos rfl] at hregular
        rw [Bool.true_and, if_pos rfl]
        cases hfailed : (sch.takeRequest t.clock.timer).hasFailed with
        | false =>
          rw [hfailed, if_neg Bool.false_ne_true] at hregular
          rw [if_neg Bool.false_ne_true, Bool.not_false, if_pos rfl]
          exact h.startScheduled hregular (Or.inr rfl) (hon.request hphase hfailed)
        | true =>
          -- the next tick cannot be told, and nothing more is done
          rw [hfailed, if_pos rfl] at hregular
          rw [if_pos rfl, Bool.not_true, if_neg Bool.false_ne_true, List.append_nil]
          refine h.sameTime hregular rfl rfl rfl h.begun_le h.time_le h.isDated (fun c hc => ?_)
            h.renews
          cases hc
          refine ⟨fun hgoesOn => ?_, fun hidle => ?_, fun p hbusy => ?_⟩
          · rw [hfailed] at hgoesOn
            cases hgoesOn
          · rw [Scheduler.hasFailed, hidle] at hfailed
            cases hfailed
          · rw [Scheduler.hasFailed, hbusy] at hfailed
            cases hfailed

/-- Whatever is due first. -/
theorem step (hr : s.CanRenew everyTick period limit)
    (h : s.OnCourse everyTick period limit acts t) {x : Nat × Event}
    (hx : earliest? t.events = some x)
    (hwell : s.GoesWell everyTick limit (acts ++ t.stepActs x.1 x.2)) :
    s.OnCourse everyTick period limit (acts ++ t.stepActs x.1 x.2) (t.step x.1 x.2) := by
  have hwait := h.wait hx
  rcases mem_events_iff.mp (mem_of_earliest? hx) with
    ⟨p, time, hp, -, rfl⟩ | ⟨sch, time, hsch, -, rfl⟩ | ⟨r, hreporter, rfl⟩
  · exact hwait.stepPass hr hp hwell
  · exact hwait.stepScheduler hr hsch hwell
  · rw [stepActs, List.append_nil]
    exact hwait.of_eq (step_leads h.isRegular (mem_of_earliest? hx)).isRegular rfl rfl rfl rfl

/-! ## Operations -/

theorem follow (hr : s.CanRenew everyTick period limit) {next? : System → Option (Nat × Event)}
    (hnext : ChoosesFirst next?) (fuel : Nat) (h : s.OnCourse everyTick period limit acts t)
    (hwell : s.GoesWell everyTick limit (acts ++ gather stepActs next? fuel t)) :
    s.OnCourse everyTick period limit (acts ++ gather stepActs next? fuel t)
      (t.follow next? fuel) := by
  refine follow_gather_induction
    (P := fun more u => s.GoesWell everyTick limit more →
      s.OnCourse everyTick period limit more u) hnext ?_ fuel (fun _ => h) hwell
  intro more u hu x hx hmore
  exact (hu hmore.of_append).step hr hx hmore

theorem deliver (h : s.OnCourse everyTick period limit acts t) :
    s.OnCourse everyTick period limit acts t.deliver := by
  obtain ⟨hstock, hfetcher, hclock, hscheduler, -⟩ := deliver_frame t
  exact h.of_eq (deliver_leads h.isRegular (fun _ => False)).isRegular hfetcher
    (congrArg Stock.files hstock) hclock hscheduler

theorem refresh (hr : s.CanRenew everyTick period limit)
    (h : s.OnCourse everyTick period limit acts t)
    (hwell : s.GoesWell everyTick limit (acts ++ t.refreshActs)) :
    s.OnCourse everyTick period limit (acts ++ t.refreshActs) t.refresh := by
  have hdeliver := h.deliver
  rw [refreshActs] at hwell ⊢
  rw [refresh_eq]
  split
  · rw [List.append_nil]
    exact hdeliver.of_eq ⟨hdeliver.isRegular.isTree, hdeliver.isRegular.pass,
      hdeliver.isRegular.scheduler, hdeliver.isRegular.interval_pos⟩ rfl rfl rfl rfl
  · rename_i hdone
    rw [if_neg hdone] at hwell
    have hbegin : s.OnCourse everyTick period limit acts t.beginPass :=
      hdeliver.of_eq (beginPass_leads h.isRegular (fun _ => False) hdone).isRegular rfl rfl rfl rfl
    exact hbegin.follow hr choosesFirst_dueInPass? _ hwell

/-- To bring in the first rules changes no file that is there. -/
theorem load (h : s.OnCourse everyTick period limit acts t) :
    s.OnCourse everyTick period limit acts t.load := by
  obtain ⟨-, -, hclock, hscheduler, -⟩ := load_frame t
  have hleads := load_leads h.isRegular
  refine h.sameTime hleads.isRegular hleads.fetcher_eq hleads.grows.home_eq hclock h.begun_le
    h.time_le (fun x hx d hd => ?_) (hscheduler ▸ h.scheduler) h.renews
  obtain ⟨c, hstat⟩ := h.isDated x hx d hd
  refine ⟨c, Files.stat?_of_grows hleads.grows hstat ?_⟩
  rintro ⟨-, hmissing⟩
  rw [Files.fileAt?_of_stat? hstat] at hmissing
  cases hmissing

/-- Time goes by. -/
theorem advance (hr : s.CanRenew everyTick period limit)
    (h : s.OnCourse everyTick period limit acts t) (hpass : t.pass = none) {duration : Nat}
    (hwell : s.GoesWell everyTick limit (acts ++ t.acts (.advance duration))) :
    s.OnCourse everyTick period limit (acts ++ t.acts (.advance duration))
      (t.perform (.advance duration)) ∧ (t.perform (.advance duration)).pass = none := by
  have hnext : ∀ sch, t.scheduler = some sch → sch.hasFailed = false → 0 < sch.next := by
    intro sch hsch hfailed
    have hperiod := (h.isRegular.scheduler sch hsch).period_pos hfailed
    have htimed := (h.scheduler sch hsch).isTimed hfailed
    rw [htimed.period_eq] at hperiod
    exact Nat.lt_of_lt_of_le hperiod htimed.period_le
  obtain ⟨hwaits, hnone⟩ := dueBy?_follow_eq_none h.isRegular hpass hnext
    (Nat.le_add_right t.clock.timer duration)
  have hloop := h.deliver.follow hr (choosesFirst_dueBy? (t.clock.timer + duration)) _ hwell
  rw [System.perform, runUntil, runEvents_eq_follow]
  generalize System.follow (dueBy? (t.clock.timer + duration)) (t.stepsWithin
    (t.clock.timer + duration - t.clock.timer)) t.deliver = u at hwaits hnone hloop ⊢
  refine ⟨hloop.later (Nat.le_max_left _ _) fun sch hsch hphase => ?_, hwaits.pass_eq⟩
  exact Nat.max_le.mpr ⟨((hloop.scheduler sch hsch).idle hphase).1,
    Nat.le_trans (Nat.le_of_lt (lt_next_of_dueBy?_eq_none hnone hsch hphase hwaits.timer_le))
      (Nat.le_max_left _ _)⟩

theorem trigger (h : s.OnCourse everyTick period limit acts t) :
    s.OnCourse everyTick period limit acts t.trigger.2 := by
  have hregular : (t.perform .trigger).IsRegular := isRegular_perform h.isRegular trivial
  rw [perform] at hregular
  rw [System.trigger] at hregular ⊢
  rcases hsch : t.scheduler with _ | sch
  · exact h
  · rw [hsch] at hregular
    refine h.sameTime hregular rfl rfl rfl h.begun_le h.time_le h.isDated (fun c hc => ?_) h.renews
    cases hc
    exact (h.scheduler sch hsch).trigger

theorem stopScheduler (hr : s.CanRenew everyTick period limit)
    (h : s.OnCourse everyTick period limit acts t)
    (hwell : s.GoesWell everyTick limit (acts ++ t.acts .stopScheduler)) :
    s.OnCourse everyTick period limit (acts ++ t.acts .stopScheduler) t.stopScheduler := by
  have hregular : (t.perform .stopScheduler).IsRegular := isRegular_perform h.isRegular trivial
  have hloop := h.deliver.follow hr choosesFirst_dueWhileBusy? t.passFuel hwell
  rw [perform] at hregular
  rw [System.stopScheduler, runToIdle_eq_follow] at hregular ⊢
  refine hloop.sameTime hregular rfl rfl rfl hloop.begun_le hloop.time_le hloop.isDated
    (fun sch hsch => ?_) hloop.renews
  cases hsch

theorem perform (hr : s.CanRenew everyTick period limit)
    (h : s.OnCourse everyTick period limit acts t) (hpass : t.pass = none) {op : Operation}
    (hop : op.LeavesCourse)
    (hwell : s.GoesWell everyTick limit (acts ++ t.acts op)) :
    s.OnCourse everyTick period limit (acts ++ t.acts op) (t.perform op) ∧
      (t.perform op).pass = none := by
  -- most operations have nothing to do with the lists
  have hsame : ∀ u : System, u.IsRegular → u.engine.fetcher = t.engine.fetcher →
      u.files = t.files → u.clock = t.clock → u.scheduler = t.scheduler → u.pass = t.pass →
      s.OnCourse everyTick period limit (acts ++ []) u ∧ u.pass = none := by
    intro u hregular hfetcher hfiles hclock hscheduler hsamePass
    rw [List.append_nil]
    exact ⟨h.of_eq hregular hfetcher hfiles hclock hscheduler, hsamePass.trans hpass⟩
  have hregular : op.IsRegular → (t.perform op).IsRegular := isRegular_perform h.isRegular
  cases op with
  | change c => exact hsame _ (hregular trivial) rfl rfl rfl rfl rfl
  | hydrate =>
    obtain ⟨-, -, -, -, -, hloadPass, -⟩ := load_frame t
    rw [System.acts] at hwell ⊢
    rw [System.perform, hydrate_eq]
    exact ⟨h.load.refresh hr hwell, pass_refresh h.load.isRegular (hloadPass.trans hpass)⟩
  | refresh => exact ⟨h.refresh hr hwell, pass_refresh h.isRegular hpass⟩
  | setEnabled on => exact hsame _ (hregular trivial) rfl rfl rfl rfl rfl
  | pauseFor duration =>
    have hregular := hregular trivial
    rw [System.perform, pauseFor] at hregular ⊢
    rcases hpause : t.engine.toggle.pauseFor t.clock.now duration with e | toggle
    · exact hsame _ h.isRegular rfl rfl rfl rfl rfl
    · rw [hpause] at hregular
      exact hsame _ hregular rfl rfl rfl rfl rfl
  | resume => exact hsame _ (hregular trivial) rfl rfl rfl rfl rfl
  | check url => exact hsame _ (hregular trivial) rfl rfl rfl rfl rfl
  | navigate url => exact hsame _ (hregular trivial) rfl rfl rfl rfl rfl
  | advance duration => exact h.advance hr hpass hwell
  | trigger =>
    have hnone : t.acts .trigger = [] := rfl
    rw [hnone, List.append_nil]
    refine ⟨h.trigger, ?_⟩
    rw [System.perform, System.trigger]
    rcases t.scheduler with _ | sch <;> exact hpass
  | stopScheduler =>
    obtain ⟨-, -, -, -, -, hdeliverPass, -⟩ := deliver_frame t
    refine ⟨h.stopScheduler hr hwell, ?_⟩
    rw [System.perform, System.stopScheduler, runToIdle_eq_follow]
    exact follow_induction (P := fun u => u.pass = none) choosesEvent_dueWhileBusy?
      (fun u hu x hx => pass_step hx hu) _ (hdeliverPass.trans hpass)
  | startScheduler period => cases hop
  | surround files web => cases hop

theorem performAll (hr : s.CanRenew everyTick period limit)
    (h : s.OnCourse everyTick period limit acts t) (hpass : t.pass = none) {ops : List Operation}
    (hops : ∀ op ∈ ops, op.LeavesCourse)
    (hwell : s.GoesWell everyTick limit (acts ++ t.course ops)) :
    s.OnCourse everyTick period limit (acts ++ t.course ops) (t.performAll ops) := by
  induction ops generalizing acts t with
  | nil =>
    rw [course, List.append_nil]
    exact h
  | cons op ops ih =>
    rw [course, ← List.append_assoc] at hwell ⊢
    obtain ⟨hop, hpass⟩ := h.perform hr hpass (hops op (List.mem_cons_self ..)) hwell.of_append
    exact ih hop hpass (fun e he => hops e (List.mem_cons_of_mem _ he)) hwell

end OnCourse

theorem onCourse_startScheduler (hs : s.IsRegular) :
    s.OnCourse everyTick period limit [] (s.startScheduler period) := by
  have hregular : (s.perform (.startScheduler period)).IsRegular := isRegular_perform hs trivial
  obtain ⟨hstock, hfetcher, hclock, -⟩ := deliver_frame s
  have hfiles : s.deliver.files = s.files := congrArg Stock.files hstock
  refine ⟨hregular, hfetcher, congrArg Files.home hfiles, congrArg Clock.wall hclock,
    Nat.le_of_eq (congrArg Clock.timer hclock).symm, fun x d hd => (by cases hd),
    fun x _ d hd => (by cases hd), fun sch hsch => ?_, trivial⟩
  cases hsch
  have htimer : (s.startScheduler period).clock.timer = s.clock.timer :=
    congrArg Clock.timer hclock
  rw [htimer]
  refine ⟨fun _ => ⟨rfl, Nat.le_add_left _ _, Nat.le_refl _, fun _ => rfl⟩, fun _ =>
    ⟨Nat.le_trans (Nat.le_add_right _ _) (Nat.le_max_right _ _), fun x _ d hd => (by cases hd)⟩,
    fun p hp => ?_⟩
  rw [Scheduler.start] at hp
  dsimp only at hp
  split at hp <;> cases hp

/-- Whether the scheduler runs, and has not been at its pass for too long. -/
def RunsInTime (s : System) (limit : Nat) (acts : Course) (t : System) : Prop :=
  ∃ sch, t.scheduler = some sch ∧ sch.hasFailed = false ∧
    ∀ p, sch.phase = .busy p → t.clock.timer ≤ Course.begun s.clock.timer acts + limit

/-- How old the last download of a list is at most. -/
theorem OnCourse.timer_le (h : s.OnCourse everyTick period limit acts t)
    (hruns : s.RunsInTime limit acts t) {x : Source} (hx : x ∈ s.engine.fetcher.sources)
    {d : Download} (hd : Course.download? x acts = some d) :
    t.clock.timer ≤ d.time + d.grace everyTick + max period limit + limit := by
  obtain ⟨sch, hsch, hfailed, hbusy⟩ := hruns
  have hon := h.scheduler sch hsch
  cases hphase : sch.phase with
  | failed =>
    rw [Scheduler.hasFailed, hphase] at hfailed
    cases hfailed
  | idle =>
    have hlast := (hon.idle hphase).2 x hx d hd
    have hnow := hon.le_of_idle hphase
    omega
  | busy p =>
    have hnow := hbusy p hphase
    have hattends := hon.busy p hphase
    by_cases hdone : x ∈ p.finished.map (·.source)
    · have hlast := hattends.renewed x hx d hd hdone
      omega
    · have hlast := (hattends.due x hx d hd hdone).begun_le
      omega

/-- The scheduler renews the lists. Whatever happens after its start: as long as every list that is
left is held in the cache, and no pass of the scheduler lasts too long, every list that was
downloaded before is downloaded again if that was more than a day ago; the files are dated with the
last downloads; and at no time is a last download longer ago than a day, a period and the duration
of a pass. If the period is longer than a day by more than a pass may last, and all downloads are
made soon after a pass of the scheduler began, then every pass that begins at a tick downloads each
list again, unless a pass that was asked for directly has done so since the tick; and the day comes
in addition only if the scheduler has been asked for a pass. -/
theorem renewal_spec (hs : s.IsRegular) (hpass : s.pass = none)
    (hr : s.CanRenew everyTick period limit) {ops : List Operation}
    (hops : ∀ op ∈ ops, op.LeavesCourse)
    (hwell : s.GoesWell everyTick limit ((s.startScheduler period).course ops)) :
    let acts := (s.startScheduler period).course ops
    let t := (s.startScheduler period).performAll ops
    Course.Each (Course.IsRenewed everyTick s.clock.timer) [] acts ∧
    ∀ x ∈ s.engine.fetcher.sources, ∀ d, Course.download? x acts = some d →
      t.files.modified? (s.engine.fetcher.cachePath x) = some (s.clock.wall d.time) ∧
      (s.RunsInTime limit acts t →
        t.clock.timer ≤ d.time + d.grace everyTick + max period limit + limit) := by
  intro acts t
  obtain ⟨-, -, -, -, -, hdeliver, -⟩ := deliver_frame s
  have hon : s.OnCourse everyTick period limit acts t :=
    (onCourse_startScheduler hs).performAll hr (hdeliver.trans hpass) hops hwell
  refine ⟨hon.renews, fun x hx d hd => ⟨?_, fun hruns => hon.timer_le hruns hx hd⟩⟩
  obtain ⟨c, hstat⟩ := hon.isDated x hx d hd
  exact Pass.modified?_of_stat? hstat

/-! ## Systems in which time goes by -/

/-- An engine with lists of given names, two of which may be in work at once, and with answers for
them. Its files are dated by the timer. -/
def listing (names : List (List Char)) (answers : List (List Char × List Answer)) : System :=
  (build {} { entries := [(["adblocker_hosts.txt".toList], .file (.text []) 0)] }
    { pending := answers, otherwise := .status 503 }
    { wall := fun t => t, steady := id }).withFetcher ⟨names.map fun n => ⟨n, n⟩, "c".toList, 2⟩

theorem isRegular_listing (names : List (List Char)) (answers : List (List Char × List Answer)) :
    (listing names answers).IsRegular := by
  refine ⟨Files.isTree_of_entries rfl fun e he => ?_, fun p hp => ?_, fun sch hsch => ?_,
    fun r hr => ?_⟩
  · rw [List.mem_singleton.mp he]
    rfl
  · cases hp
  · cases hsch
  · cases hr

/-- An engine with two lists, of which the first is downloaded only at the second attempt. -/
def delaying : System :=
  listing ["a".toList, "b".toList]
    [("a".toList, [.error (.status 503), .ok [], .ok []]), ("b".toList, [.ok [], .ok []])]

/-- Two seconds for a pass, and a day, are less than the period, and the file of the first list is
renewed in time. -/
theorem renewal_spec_of_delay :
    let t := (delaying.startScheduler 86402001).performAll [.advance 172804002]
    t.files.modified? "c/a.txt".toList = some 172804002 ∧
      t.clock.timer ≤ 172804002 + 0 + max 86402001 2000 + 2000 := by
  have hs : delaying.IsRegular := isRegular_listing _ _
  have hr : delaying.CanRenew true 86402001 2000 := by
    refine ⟨by decide, fun t k => ?_, fun _ => by decide⟩
    exact Int.natCast_add t k
  have hops : ∀ op ∈ [Operation.advance 172804002], op.LeavesCourse := by
    intro op hop
    rw [List.mem_singleton.mp hop]
    trivial
  have hwell : delaying.GoesWell true 2000
      ((delaying.startScheduler 86402001).course [.advance 172804002]) :=
    ⟨by decide, by decide⟩
  have hdownload : Course.download? ⟨"a".toList, "a".toList⟩
      ((delaying.startScheduler 86402001).course [.advance 172804002]) =
        some ⟨172804002, true, false⟩ := by decide
  have hbegun : Course.begun delaying.clock.timer
      ((delaying.startScheduler 86402001).course [.advance 172804002]) = 172804002 := by
    decide
  have htimer : ((delaying.startScheduler 86402001).performAll [.advance 172804002]).clock.timer =
      172804002 := by decide
  have hgoesOn : (((delaying.startScheduler 86402001).performAll
      [.advance 172804002]).scheduler.any fun sch => !sch.hasFailed) = true := by decide
  obtain ⟨-, hlast⟩ := renewal_spec hs rfl hr hops hwell
  obtain ⟨hfile, hage⟩ := hlast _ (List.mem_cons_self ..) _ hdownload
  obtain ⟨sch, hsch, hfailed⟩ := (Option.any_eq_true ..).mp hgoesOn
  refine ⟨hfile, hage ⟨sch, hsch, by simpa using hfailed, fun _ _ => ?_⟩⟩
  rw [htimer, hbegun]
  exact Nat.le_add_right _ _

end System

namespace Course

/-- How each list was come by, and when; where a pass of the scheduler begins, nothing. -/
def outcomes (acts : Course) : List (Nat × Option Outcome) :=
  acts.map fun a => (a.1, match a.2 with | .left _ l => l.status.outcome | _ => none)

end Course

namespace System

/-- An engine with a list that is downloaded whenever it is called for. -/
def renewing : System := listing ["a".toList] [("a".toList, [.ok [], .ok []])]

/-- An engine with two lists that have the same file; the first is called for three times. -/
def sharing : System :=
  listing ["a".toList, "b".toList, "./a".toList]
    [("a".toList, [.error (.status 503), .ok [], .ok []]), ("b".toList, [.ok [], .ok []]),
      ("./a".toList, [.ok [], .ok []])]

/-- All downloads succeed and are put into the cache, and yet lists are not renewed: if the period
is just a day, the tick finds the file young enough. With a longer one, a pass that was asked for
may find it so, and puts the next tick off, so that the list is in use for two periods; a tick finds
it so if a pass that was asked for directly has downloaded the list within the last day; and a pass
does that has just stored another list in the same file. -/
theorem renewal_fails :
    (let acts := (renewing.startScheduler Cache.staleAfter).course [.advance (2 * Cache.staleAfter)]
    (∀ a ∈ acts, a.2.IsHeld) ∧ acts.outcomes = [(86400000, none), (86400000, some .downloaded),
      (172800000, none), (172800000, some .cached)]) ∧
    (let ops := [.advance 86400001, .advance 86400000, .trigger, .advance 86400000]
    let acts := (renewing.startScheduler 86400001).course ops
    ((renewing.startScheduler 86400001).performAll ops).clock.timer = 259200001 ∧
    (∀ a ∈ acts, a.2.IsHeld) ∧ acts.outcomes = [(86400001, none), (86400001, some .downloaded),
      (172800001, none), (172800001, some .cached)]) ∧
    (let ops := [.advance 82800001, .refresh, .advance 3600000]
    let acts := (renewing.startScheduler 86400001).course ops
    (∀ a ∈ acts, a.2.IsHeld) ∧ acts.outcomes = [(82800001, some .downloaded), (86400001, none),
      (86400001, some .cached)]) ∧
    (let acts := (sharing.startScheduler 86402001).course [.advance 172804002]
    (∀ a ∈ acts, a.2.IsHeld) ∧ acts.outcomes = [(86402001, none), (86402001, some .downloaded),
      (86402001, some .downloaded), (86404001, some .downloaded), (172804002, none),
      (172804002, some .downloaded), (172804002, some .cached),
      (172804002, some .downloaded)]) := by
  refine ⟨?_, ?_, ?_, ?_⟩ <;> decide

end System

end AdFilter
