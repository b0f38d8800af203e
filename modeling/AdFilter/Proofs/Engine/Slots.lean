import AdFilter.Proofs.Engine.Refresh
import AdFilter.Proofs.Fetch.Account
import AdFilter.Proofs.Text.Order

/-!
# How a refresh keeps its limit

A refresh pass takes the lists into work in the order in which they are given, never more of them at
once than may be, and never fewer as long as lists wait; and each list is called for when its calls
are due. `System.slots_spec` says so for any lists and any answers, and how long a refresh takes in
consequence. What the scheduler does in the meantime does not show in it.
-/

namespace AdFilter

/-- A pass before a step, and when that is made. -/
structure Pass.Frame where
  now : Moment
  pass : Pass
  stock : Stock

/-- How the lists fare in the steps of a pass. -/
def Fetcher.stints (f : Fetcher) (frames : List Pass.Frame) : List Stint :=
  frames.foldl (fun xs frame => Pass.note f frame.now frame.pass frame.stock xs) []

@[simp] theorem Fetcher.stints_concat (f : Fetcher) (frames : List Pass.Frame)
    (frame : Pass.Frame) : f.stints (frames ++ [frame]) =
      Pass.note f frame.now frame.pass frame.stock (f.stints frames) := List.foldl_append

namespace System

/-- The step of the pass that was asked for directly, if that is what is done. -/
def passFrames (s : System) (time : Nat) : Event → List Pass.Frame
  | .pass p => [⟨⟨time, s.clock.wall time⟩, p, s.stock⟩]
  | .scheduler _ | .reporter _ => []

/-- How the lists have fared after so many steps of a refresh. -/
def stintsAfter (s : System) (steps : Nat) : List Stint :=
  if (Pass.start s.deliver.engine.fetcher).isDone then []
  else s.engine.fetcher.stints (gather passFrames dueInPass? steps s.beginPass)

/-- How the lists fare in a refresh. -/
def refreshStints (s : System) : List Stint := s.stintsAfter s.passFuel

variable {s t : System} {p : Pass} {frames : List Pass.Frame} {x : Nat × Event}

/-! ## While the pass goes on -/

/-- Whether the stints account for all that has happened since some time, if there is no one else
to do anything. -/
def Accounts (s : System) (xs : List Stint) (t : System) : Prop :=
  s.IsQuiet → Pass.Account s.engine.fetcher s.clock.wall s.stock t.stock xs

/-- What is known of a system while a pass is under way that began in another. -/
structure Watched (s : System) (frames : List Pass.Frame) (p : Pass) (t : System) : Prop where
  inPass : ∃ reports, s.InPass reports p t
  onTime : p.OnTime s.engine.fetcher s.clock.timer t.clock.timer (s.engine.fetcher.stints frames)
  accounts : s.Accounts (s.engine.fetcher.stints frames) t

/-- What is known of a system after the pass. -/
structure Seen (s : System) (xs : List Stint) (p : Pass) (t : System) : Prop where
  isDone_eq : p.isDone = true
  statuses_eq : t.engine.statuses = p.statuses
  onTime : p.OnTime s.engine.fetcher s.clock.timer t.clock.timer xs
  last : (xs = [] ∧ t.clock.timer = s.clock.timer) ∨ ∃ x ∈ xs, x.last = t.clock.timer
  accounts : s.Accounts xs t

/-- What is due first comes no later than what is due in the pass. -/
theorem le_due (hx : dueInPass? t = some x) (hp : t.pass = some p) {due : Nat}
    (hdue : p.due? t.engine.fetcher t.clock.timer = some due) : x.1 ≤ due :=
  le_of_earliest? (choosesFirst_dueInPass? t x hx) _
    (mem_events_iff.mpr (Or.inl ⟨p, due, hp, hdue, rfl⟩))

/-- Another step leaves the pass alone, and all that it works on, unless it is one of the scheduler,
which is asleep in a quiet system. -/
theorem Watched.other (h : s.Watched frames p t) (hx : dueInPass? t = some x)
    (hother : ∀ q, x.2 ≠ .pass q) : (t.step x.1 x.2).pass = some p ∧
      (s.IsQuiet → (t.step x.1 x.2).stock = t.stock) := by
  obtain ⟨reports, hpass⟩ := h.inPass
  obtain ⟨y, hdue, hmem, hrunning, hidle⟩ := hpass.exists_due
  obtain rfl := Option.some.inj (hx.symm.trans hdue)
  have hwait := hpass.wait (le_of_mem_events hmem) hrunning hidle
  rcases mem_events_iff.mp hmem with
    ⟨q, time, hq, -, rfl⟩ | ⟨sch, time, hsch, hthen, rfl⟩ | ⟨r, hr, rfl⟩
  · exact absurd rfl (hother q)
  · obtain ⟨hsame, -⟩ :=
      stepScheduler_frame { t with clock := { t.clock with timer := time } } sch
    exact ⟨hsame.trans hpass.pass_eq, fun hquiet =>
      absurd hquiet (hwait.not_isQuiet hsch (Scheduler.due?_self hthen))⟩
  · exact ⟨hpass.pass_eq, fun _ => rfl⟩

/-- A step of the pass is made when it is due. -/
theorem Watched.pass (hs : s.IsRegular) (h : s.Watched frames p t) {time : Nat}
    (hx : dueInPass? t = some (time, .pass p)) :
    let next := (p.step s.engine.fetcher ⟨time, t.clock.wall time⟩ t.stock).1
    let xs := s.engine.fetcher.stints (frames ++ t.passFrames time (.pass p))
    next.OnTime s.engine.fetcher s.clock.timer time xs ∧ (∃ y ∈ xs, y.last = time) ∧
      s.Accounts xs (t.step time (.pass p)) ∧
      if next.isDone then (t.step time (.pass p)).pass = none ∧
        (t.step time (.pass p)).engine.statuses = next.statuses
      else (t.step time (.pass p)).pass = some next := by
  intro next xs
  obtain ⟨reports, hpass⟩ := h.inPass
  have hfirst := choosesFirst_dueInPass? t _ hx
  have hle : t.clock.timer ≤ time := le_of_mem_events (mem_of_earliest? hfirst)
  have hunder := hpass.isUnderWay
  have hdue : p.due? t.engine.fetcher t.clock.timer = some time := by
    rcases mem_events_iff.mp (mem_of_earliest? hfirst) with
      ⟨q, due, hq, hdue, heq⟩ | ⟨sch, due, -, -, heq⟩ | ⟨r, -, heq⟩
    · cases heq
      exact hdue
    · cases heq
    · cases heq
  rw [hpass.fetcher_eq] at hunder hdue
  have honTime : p.OnTime s.engine.fetcher s.clock.timer time (s.engine.fetcher.stints frames) :=
    h.onTime.wait hle fun due hthen =>
      le_due hx hpass.pass_eq (by rw [hpass.fetcher_eq]; exact hthen)
  have hxs : xs = Pass.note s.engine.fetcher ⟨time, t.clock.wall time⟩ p t.stock
      (s.engine.fetcher.stints frames) := Fetcher.stints_concat _ _ _
  have hself : p.due? s.engine.fetcher (Moment.mk time (t.clock.wall time)).timer =
      some (Moment.mk time (t.clock.wall time)).timer := Pass.due?_self hdue
  obtain ⟨hnext, hlast⟩ := Pass.OnTime.step honTime hunder.isOf hunder.isDone_eq
    (Nat.le_trans hpass.timer_le hle) hself t.stock
  let later : System := { t with clock := { t.clock with timer := time } }
  have hmade : p.step later.engine.fetcher later.clock.moment later.stock =
      (next, (p.step s.engine.fetcher ⟨time, t.clock.wall time⟩ t.stock).2) := by
    rw [show later.engine.fetcher = s.engine.fetcher from hpass.fetcher_eq]
    rfl
  have hstep : t.step time (.pass p) = _ := stepPass_of_step hmade
  rw [hstep]
  refine ⟨hxs ▸ hnext, hxs ▸ hlast, fun hquiet => ?_, ?_⟩
  · obtain ⟨-, -, log, hrun⟩ := hpass.run hquiet
    have hstock : (t.step time (.pass p)).stock =
        (p.step s.engine.fetcher ⟨time, t.clock.wall time⟩ t.stock).2 := by
      rw [hstep]
      split <;> rfl
    rw [← hstep, hstock, hxs]
    exact Pass.Account.step (h.accounts hquiet) honTime hunder.isDone_eq hs.isTree hrun
      (congrFun hpass.wall_eq time)
  · split
    · exact ⟨rfl, rfl⟩
    · rfl

/-- What is due first is a step of the pass, or it leaves the pass alone. -/
theorem Watched.step (hs : s.IsRegular) (h : s.Watched frames p t) (hx : dueInPass? t = some x) :
    (∃ q, s.Watched (frames ++ t.passFrames x.1 x.2) q (t.step x.1 x.2)) ∨
      (t.step x.1 x.2).pass = none ∧ ∃ q, s.Seen (s.engine.fetcher.stints
        (frames ++ t.passFrames x.1 x.2)) q (t.step x.1 x.2) := by
  obtain ⟨reports, hpass⟩ := h.inPass
  obtain ⟨y, hdue, hmem, hrunning, hidle⟩ := hpass.exists_due
  obtain rfl := Option.some.inj (hx.symm.trans hdue)
  obtain ⟨q, hnext⟩ := hpass.step hmem hrunning hidle
  have htimer : (t.step x.1 x.2).clock.timer = x.1 := congrArg Clock.timer (step_clock t x.1 x.2)
  have hwait : p.OnTime s.engine.fetcher s.clock.timer x.1 (s.engine.fetcher.stints frames) :=
    h.onTime.wait (le_of_mem_events hmem) fun due hthen =>
      le_due hx hpass.pass_eq (by rw [hpass.fetcher_eq]; exact hthen)
  by_cases hother : ∀ q, x.2 ≠ .pass q
  · obtain ⟨hsame, hstock⟩ := h.other hx hother
    have hframes : t.passFrames x.1 x.2 = [] := by
      rcases hevent : x.2 with q | sch | r
      · exact absurd hevent (hother q)
      · rfl
      · rfl
    rw [hframes, List.append_nil]
    rcases hnext with hafter | ⟨hon, -⟩
    · rw [hafter.pass_eq] at hsame
      cases hsame
    · obtain rfl := Option.some.inj (hon.pass_eq.symm.trans hsame)
      refine Or.inl ⟨q, ⟨_, hon⟩, by rw [htimer]; exact hwait, fun hquiet => ?_⟩
      rw [hstock hquiet]
      exact h.accounts hquiet
  · obtain ⟨time, rfl⟩ : ∃ time, x = (time, .pass p) := by
      obtain ⟨q, hq⟩ := not_forall.mp hother
      have hq : x.2 = .pass q := not_not.mp hq
      rcases mem_events_iff.mp hmem with
        ⟨q', time, hq', -, rfl⟩ | ⟨sch, time, -, -, rfl⟩ | ⟨r, -, rfl⟩
      · rw [hpass.pass_eq] at hq'
        cases hq'
        exact ⟨time, rfl⟩
      · cases hq
      · cases hq
    have htimer : (t.step time (.pass p)).clock.timer = time := htimer
    obtain ⟨hon, hlast, haccounts, hafter⟩ := h.pass hs hx
    split at hafter
    · rename_i hdone
      exact Or.inr ⟨hafter.1, _, hdone, hafter.2, by rw [htimer]; exact hon,
        Or.inr (by rw [htimer]; exact hlast), haccounts⟩
    · rcases hnext with hover | ⟨hstill, -⟩
      · rw [hover.pass_eq] at hafter
        cases hafter
      · obtain rfl := Option.some.inj (hstill.pass_eq.symm.trans hafter)
        exact Or.inl ⟨_, ⟨_, hstill⟩, by rw [htimer]; exact hon, haccounts⟩

/-! ## The whole pass -/

/-- So it goes on until the pass is done. -/
theorem watched_gather (hs : s.IsRegular)
    (hdone : ¬ (Pass.start s.deliver.engine.fetcher).isDone = true) (steps : Nat) :
    let frames := gather passFrames dueInPass? steps s.beginPass
    let t := follow dueInPass? steps s.beginPass
    (∃ p, s.Watched frames p t) ∨
      t.pass = none ∧ ∃ p, s.Seen (s.engine.fetcher.stints frames) p t := by
  obtain ⟨hstock, -, hclock, -⟩ := deliver_frame s
  have htimer : s.beginPass.clock.timer = s.clock.timer := congrArg Clock.timer hclock
  rw [← List.nil_append (gather passFrames dueInPass? steps s.beginPass)]
  refine gather_induction (P := fun frames t => (∃ p, s.Watched frames p t) ∨
    t.pass = none ∧ ∃ p, s.Seen (s.engine.fetcher.stints frames) p t) ?_ steps ?_
  · rintro frames t (⟨p, h⟩ | ⟨hnone, -⟩) x hx
    · exact h.step hs hx
    · -- once the pass is done the loop stands still
      rw [dueInPass?, hnone] at hx
      cases hx
  · have hsame : s.beginPass.stock = s.stock := hstock
    refine Or.inl ⟨_, ⟨[], inPass_beginPass hs hdone⟩, ?_, fun _ => ?_⟩
    · rw [htimer]
      exact Pass.onTime_start _ _
    · rw [hsame]
      exact Pass.account_start _ _ _

theorem exists_seen (hs : s.IsRegular) : ∃ p, s.Seen s.refreshStints p s.refresh := by
  obtain ⟨hstock, hfetcher, hclock, -⟩ := deliver_frame s
  rw [refresh_eq, refreshStints, stintsAfter]
  by_cases hdone : (Pass.start s.deliver.engine.fetcher).isDone = true
  · -- there are no lists
    rw [if_pos hdone, if_pos hdone]
    have hdone' : (Pass.start s.engine.fetcher).isDone = true := hfetcher ▸ hdone
    have htimer : (s.deliver.finishPass (Pass.start s.deliver.engine.fetcher)).clock.timer =
        s.clock.timer := congrArg Clock.timer hclock
    have hsame : (s.deliver.finishPass (Pass.start s.deliver.engine.fetcher)).stock = s.stock :=
      hstock
    refine ⟨Pass.start s.engine.fetcher, hdone', ?_, ?_, Or.inl ⟨rfl, htimer⟩, fun _ => ?_⟩
    · rw [hfetcher]
      rfl
    · rw [htimer]
      exact Pass.onTime_start _ _
    · rw [hsame]
      exact Pass.account_start _ _ _
  · rw [if_neg hdone, if_neg hdone]
    rcases watched_gather hs hdone s.passFuel with ⟨p, h⟩ | ⟨-, p, h⟩
    · -- the steps do not run out
      obtain ⟨q, hafter⟩ := (inPass_beginPass hs hdone).exists_follow (stepsLeft_lt_passFuel hs)
      obtain ⟨reports, hpass⟩ := h.inPass
      have hnone := hpass.pass_eq.symm.trans hafter.pass_eq
      cases hnone
    · exact ⟨p, h⟩

section

variable {xs : List Stint}

/-- The lists have been taken into work in the order in which they are given. -/
theorem Seen.sources_eq (h : s.Seen xs p t) :
    xs.map (·.source) = s.engine.fetcher.sources := by
  have hdone := h.isDone_eq
  rw [Pass.isDone, Bool.and_eq_true, List.isEmpty_iff] at hdone
  have hsources := h.onTime.sources_eq
  rwa [hdone.1, List.append_nil] at hsources

/-- Each list has been done with. -/
theorem Seen.exists_status (h : s.Seen xs p t) {x : Stint} (hx : x ∈ xs) :
    ∃ y, x.status? = some y ∧ y.source = x.source := by
  obtain ⟨y, hy⟩ := Stint.exists_status_of_job?_eq_none (h.onTime.job?_eq_none h.isDone_eq hx)
  exact ⟨y, hy, (h.onTime.isTimely x hx).status y hy⟩

theorem Seen.statuses_perm (h : s.Seen xs p t) :
    t.engine.statuses.Perm (xs.filterMap Stint.status?) := by
  rw [h.statuses_eq]
  exact (Text.sortBy_perm _ _).trans h.onTime.statuses_perm.symm

/-- How long the pass has taken, by the waits of its lists. -/
theorem Seen.elapsed (h : s.Seen xs p t) :
    let limit := max s.engine.fetcher.concurrency 1
    let elapsed := t.clock.timer - s.clock.timer
    let sum := (xs.map Stint.backoff).sum
    let longest := (xs.map Stint.backoff).max?.getD 0
    longest ≤ elapsed ∧ elapsed ≤ sum ∧ sum ≤ limit * elapsed ∧
      limit * elapsed ≤ sum + (limit - 1) * longest := by
  rcases h.last with ⟨rfl, htimer⟩ | hlast
  · rw [htimer, Nat.sub_self]
    exact ⟨Nat.le_refl _, Nat.le_refl _, Nat.zero_le _, Nat.zero_le _⟩
  · exact h.onTime.elapsed h.isDone_eq hlast

end

/-- At no point of a refresh more lists are in work than may be. -/
theorem countP_stintsAfter_le (hs : s.IsRegular) (steps : Nat) :
    (s.stintsAfter steps).countP (·.job?.isSome) ≤ s.engine.fetcher.limit := by
  have hopen : ∀ {p : Pass} {xs : List Stint} {now : Nat},
      p.OnTime s.engine.fetcher s.clock.timer now xs →
        xs.countP (·.job?.isSome) ≤ s.engine.fetcher.limit := by
    intro p xs now h
    refine Nat.le_trans (Nat.le_of_eq (List.countP_congr fun x hx => ?_)) (h.countP_le now)
    rw [Stint.isInWork_of_last_le (h.isTimely x hx) (Nat.le_refl _)]
  rw [stintsAfter]
  split
  · exact Nat.zero_le _
  · rename_i hdone
    rcases watched_gather hs hdone steps with ⟨p, h⟩ | ⟨-, p, h⟩
    · exact hopen h.onTime
    · exact hopen h.onTime

/-- How a refresh keeps its limit and its times. Each list is taken into work once, in the order in
which the lists are given, and is done with in the end, with one status. At no point are more lists
in work than may be, where none counts as one; and as long as lists wait, there are as many at each
moment. Each list is called for at once, two seconds later and four seconds after that, as far as it
is called for, and is done with at its last call. If there is no one else to make calls, these are
all calls that the network hears. So with the waits of the lists between their calls, their sum and
the longest of them, it is limited how long the refresh takes; if one list at most may be in work,
it takes as long as all waits together. -/
theorem slots_spec (hs : s.IsRegular) :
    let limit := max s.engine.fetcher.concurrency 1
    let stints := s.refreshStints
    let elapsed := s.refresh.clock.timer - s.clock.timer
    let sum := (stints.map Stint.backoff).sum
    let longest := (stints.map Stint.backoff).max?.getD 0
    stints.map (·.source) = s.engine.fetcher.sources ∧
      (stints.map (·.began)).Pairwise (· ≤ ·) ∧
      (∀ x ∈ stints, ∃ y, x.status? = some y ∧ y.source = x.source) ∧
      s.refresh.engine.statuses.Perm (stints.filterMap Stint.status?) ∧
      (∀ steps, (s.stintsAfter steps).countP (·.job?.isSome) ≤ limit) ∧
      (∀ time, stints.countP (·.isInWork time) ≤ limit) ∧
      (∀ x ∈ stints, ∀ time, s.clock.timer ≤ time → time < x.began →
        stints.countP (·.isInWork time) = limit) ∧
      (∀ x ∈ stints, s.clock.timer ≤ x.began ∧ x.last ≤ s.refresh.clock.timer ∧
        x.calls.map (·.1) <+: [x.began, x.began + 2000, x.began + 6000] ∧
        x.last = ((x.calls.map (·.1)).getLast?).getD x.began ∧ x.last = x.began + x.backoff) ∧
      (s.IsQuiet → ∃ calls, s.refresh.web.calls = s.web.calls ++ calls ∧
        (stints.flatMap Stint.urls).Perm calls) ∧
      longest ≤ elapsed ∧ elapsed ≤ sum ∧ sum ≤ limit * elapsed ∧
      limit * elapsed ≤ sum + (limit - 1) * longest ∧ (limit = 1 → elapsed = sum) := by
  intro limit stints elapsed sum longest
  obtain ⟨p, hseen⟩ := exists_seen hs
  have hon := hseen.onTime
  obtain ⟨hlongest, hsum, hwork, hload⟩ := hseen.elapsed
  refine ⟨hseen.sources_eq, hon.pairwise, fun x hx => hseen.exists_status hx, hseen.statuses_perm,
    countP_stintsAfter_le hs, hon.countP_le, fun x hx time hstart hbegan => ?_, fun x hx => ?_,
    fun hquiet => (hseen.accounts hquiet).calls, hlongest, hsum, hwork, hload, fun hone => ?_⟩
  · have htime : time < s.refresh.clock.timer :=
      Nat.lt_of_lt_of_le hbegan (hon.isTimely x hx).began_le
    exact Nat.le_antisymm (hon.countP_le time)
      (hon.load_ge time htime hstart (Or.inr ⟨x, hx, hbegan⟩))
  · have htimely := hon.isTimely x hx
    exact ⟨htimely.start_le, htimely.last_le, htimely.times_begin,
      htimely.last_eq_getD, htimely.last_eq⟩
  · have hwork : sum ≤ limit * elapsed := hwork
    rw [hone, Nat.one_mul] at hwork
    exact Nat.le_antisymm hsum hwork

/-- An engine with three lists that are never answered, two of which may be in work at once. -/
def unanswered : System :=
  let lists := ["a".toList, "b".toList, "c".toList]
  let engine := Engine.build {} {}
  { engine := { engine with fetcher := ⟨lists.map fun name => ⟨name, name⟩, "cache".toList, 2⟩ }
    files := {}
    web := { otherwise := .status 503 }
    clock := { wall := fun t => t, steady := id } }

/-- With three lists that wait for six seconds each, it takes between nine and twelve seconds to try
them all, two at a time. -/
theorem slots_spec_of_unanswered : (unanswered.refreshStints.map Stint.backoff) =
      [6000, 6000, 6000] ∧
    9000 ≤ unanswered.refresh.clock.timer ∧ unanswered.refresh.clock.timer ≤ 12000 := by
  have hregular : unanswered.IsRegular :=
    ⟨Files.isTree_of_entries rfl fun e he => (by cases he), fun p hp => (by cases hp),
      fun sch hsch => (by cases hsch), fun r hr => by cases hr⟩
  obtain ⟨-, -, -, -, -, -, -, -, -, -, -, hwork, hload, -⟩ := slots_spec hregular
  have hwaits : unanswered.refreshStints.map Stint.backoff = [6000, 6000, 6000] := by
    decide
  have hlimit : max unanswered.engine.fetcher.concurrency 1 = 2 := rfl
  have hlongest : ([6000, 6000, 6000] : List Nat).max?.getD 0 = 6000 := rfl
  have hsum : ([6000, 6000, 6000] : List Nat).sum = 18000 := rfl
  have hstart : unanswered.clock.timer = 0 := rfl
  rw [hwaits, hlimit, hsum, hstart] at hwork hload
  rw [hlongest] at hload
  exact ⟨hwaits, by omega, by omega⟩

/-- The third list has to wait until there is room again, and so it takes the longest time. -/
example : unanswered.refresh.clock.timer = 12000 := by decide

end System

end AdFilter
