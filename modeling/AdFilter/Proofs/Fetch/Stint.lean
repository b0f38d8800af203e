import AdFilter.Proofs.Fetch.Progress
import Mathlib.Algebra.BigOperators.Intervals
import Mathlib.Algebra.Group.Action.Defs
import Mathlib.Algebra.Order.BigOperators.Group.Finset

/-!
# How long lists are in work

A list is in work from the moment when it is taken up to its last call, or for no time at all if it
is had from the cache. A `Stint` keeps how one list fares in a pass, and `Pass.note` brings the
stints up to date with each step. `Pass.OnTime` says that calls are made when they are due, and that
no room for a list is left unused as long as lists wait; what follows for the length of a pass is
`Pass.OnTime.elapsed`.
-/

namespace AdFilter

deriving instance DecidableEq for Job

namespace Pass.Turn

/-- What is left to do for a list. -/
def job? : Turn → Option Job
  | goesOn j => some j
  | ends _ => none

/-- What is known of a list that is done with. -/
def status? : Turn → Option SourceStatus
  | goesOn _ => none
  | ends y => some y

end Pass.Turn

namespace Pass

/-- A list that is taken into work is done with, or its first call is due at once. -/
theorem begin_turn (f : Fetcher) (now : Moment) (s : Source) (st : Stock) :
    (∀ j, (begin f now s st).1.job? = some j → j = ⟨s, 1, now.timer⟩) ∧
      ∀ y, (begin f now s st).1.status? = some y → y.source = s := by
  rw [begin_eq]
  rcases beginText? f now s st with _ | text
  · exact ⟨fun j hj => (Option.some.inj hj).symm, fun y hy => by cases hy⟩
  · exact ⟨fun j hj => (by cases hj), fun y hy => by cases hy; rfl⟩

/-- A list that was called for is done with, or its next call is due after a while. -/
theorem attempt_turn (f : Fetcher) (now : Moment) (j : Job) (st : Stock) :
    (∀ k, (attempt f now j st).1.job? = some k →
      k = ⟨j.source, j.attempt + 1, now.timer + j.attempt * Fetcher.backoff⟩) ∧
      ∀ y, (attempt f now j st).1.status? = some y → y.source = j.source := by
  rw [attempt_eq]
  dsimp only
  split
  · exact ⟨fun k hk => (Option.some.inj hk).symm, fun y hy => by cases hy⟩
  · exact ⟨fun k hk => (by cases hk), fun y hy => by cases hy; rfl⟩

end Pass

/-- How long after a list is taken into work the call is made that comes after so many others. -/
def Fetcher.delay : Nat → Nat
  | 0 => 0
  | k + 1 => delay k + (k + 1) * backoff

/-- How a list fares in a pass. -/
structure Stint where
  source : Source
  /-- when the list was taken into work -/
  began : Nat
  /-- when its calls were made, and what they were answered -/
  calls : List (Nat × Answer)
  /-- when its last turn was -/
  last : Nat
  /-- where that left the list -/
  turn : Pass.Turn
  /-- the text that was brought in with it -/
  text? : Option (List Char)
  /-- whether that was put into the cache -/
  stored : Bool

namespace Stint

variable {x : Stint} {start now time : Nat}

/-- The stint of a list that is taken into work. -/
def taken (f : Fetcher) (now : Moment) (s : Source) (st : Stock) : Stint where
  source := s
  began := now.timer
  calls := []
  last := now.timer
  turn := (Pass.begin f now s st).1
  text? := Pass.beginText? f now s st
  stored := false

/-- The stint of a list after an attempt. -/
def called (f : Fetcher) (now : Moment) (j : Job) (st : Stock) (x : Stint) : Stint :=
  let answer := (st.web.call now.timer j.source.url).1
  { x with
    calls := x.calls ++ [(now.timer, answer)]
    last := now.timer
    turn := (Pass.attempt f now j st).1
    text? := Pass.attemptText? f now j st
    stored := match answer with
      | .ok text => (Cache.store st.files now.wall f.folder (f.cachePath j.source) text).2
      | .error _ => false }

/-- What is left to do for the list. -/
def job? (x : Stint) : Option Job := x.turn.job?

/-- What is known of the list, if it is done with. -/
def status? (x : Stint) : Option SourceStatus := x.turn.status?

/-- What its calls were answered. -/
def answers (x : Stint) : List Answer := x.calls.map (·.2)

/-- When calls were made for which address. -/
def urls (x : Stint) : List (Nat × List Char) := x.calls.map fun c => (c.1, x.source.url)

/-- Whether the list is in work at a time. -/
def isInWork (time : Nat) (x : Stint) : Bool :=
  decide (x.began ≤ time) && (x.job?.isSome || decide (time < x.last))

/-- How long the list waited between its calls, all in all. -/
def backoff (x : Stint) : Nat := Fetcher.delay (x.calls.length - 1)

/-- Brings the stint up to date that has some job left to do. -/
def record (j : Job) (g : Stint → Stint) : List Stint → List Stint
  | [] => []
  | x :: xs => if x.job? = some j then g x :: xs else x :: record j g xs

theorem exists_record {j : Job} {xs : List Stint} (h : j ∈ xs.filterMap Stint.job?)
    (g : Stint → Stint) : ∃ before x after, xs = before ++ x :: after ∧ x.job? = some j ∧
      record j g xs = before ++ g x :: after := by
  induction xs with
  | nil => cases h
  | cons y xs ih =>
    rw [record]
    by_cases hy : y.job? = some j
    · rw [if_pos hy]
      exact ⟨[], y, xs, rfl, hy, rfl⟩
    · have hrest : j ∈ xs.filterMap Stint.job? := by
        rw [List.mem_filterMap] at h ⊢
        obtain ⟨z, hz, hjob⟩ := h
        rcases List.mem_cons.mp hz with rfl | hz
        · exact absurd hjob hy
        · exact ⟨z, hz, hjob⟩
      obtain ⟨before, x, after, rfl, hx, hrecord⟩ := ih hrest
      rw [if_neg hy, hrecord]
      exact ⟨y :: before, x, after, rfl, hx, rfl⟩

theorem status?_eq_none {j : Job} (h : x.job? = some j) : x.status? = none := by
  rw [job?] at h
  rw [status?]
  rcases hturn : x.turn with k | y
  · rfl
  · rw [hturn] at h
    cases h

/-- Where nothing is left to do for a list, it is done with. -/
theorem exists_status_of_job?_eq_none (h : x.job? = none) : ∃ y, x.status? = some y := by
  rw [job?] at h
  rw [status?]
  rcases hturn : x.turn with k | y
  · rw [hturn] at h
    cases h
  · exact ⟨y, rfl⟩

/-- Whether all turns of a list came when they were due, in a pass that began at some time and has
come to another. -/
structure IsTimely (start now : Nat) (x : Stint) : Prop where
  start_le : start ≤ x.began
  last_eq : x.last = x.began + x.backoff
  last_le : x.last ≤ now
  times_eq : x.calls.map (·.1) =
    (List.range x.calls.length).map fun k => x.began + Fetcher.delay k
  length_le : x.calls.length ≤ Fetcher.attempts
  job : ∀ j, x.job? = some j → j.source = x.source ∧ j.attempt = x.calls.length + 1 ∧
    j.due = x.began + Fetcher.delay x.calls.length ∧ now ≤ j.due
  status : ∀ y, x.status? = some y → y.source = x.source

theorem IsTimely.began_le (h : x.IsTimely start now) : x.began ≤ now := by
  have hlast := h.last_eq
  have hnow := h.last_le
  omega

theorem IsTimely.wait (h : x.IsTimely start now) (hnow : now ≤ time)
    (hdue : ∀ j, x.job? = some j → time ≤ j.due) : x.IsTimely start time :=
  ⟨h.start_le, h.last_eq, Nat.le_trans h.last_le hnow, h.times_eq, h.length_le,
    fun j hj => ⟨(h.job j hj).1, (h.job j hj).2.1, (h.job j hj).2.2.1, hdue j hj⟩, h.status⟩

theorem IsTimely.called {now : Moment} (h : x.IsTimely start now.timer) {j : Job}
    (hx : x.job? = some j) (hdue : j.due = now.timer) (hbound : j.attempt ≤ Fetcher.attempts)
    (f : Fetcher) (st : Stock) : (x.called f now j st).IsTimely start now.timer := by
  obtain ⟨hjob, hstatus⟩ := Pass.attempt_turn f now j st
  obtain ⟨hsource, hattempt, hthen, -⟩ := h.job j hx
  have hlength : (x.called f now j st).calls.length = x.calls.length + 1 := List.length_append
  have hbegan : (x.called f now j st).began = x.began := rfl
  have hnow : now.timer = x.began + Fetcher.delay x.calls.length := hdue.symm.trans hthen
  refine ⟨h.start_le, ?_, Nat.le_refl _, ?_, ?_, fun k hk => ?_, fun y hy => ?_⟩
  · rw [backoff, hlength]
    exact hnow
  · rw [hlength, hbegan, List.range_succ, List.map_append, ← h.times_eq, Stint.called,
      List.map_append, List.map_singleton, List.map_singleton, ← hnow]
  · rw [hlength]
    omega
  · rw [hjob k hk, hlength]
    refine ⟨hsource, by rw [hattempt], ?_, Nat.le_add_right _ _⟩
    rw [Fetcher.delay, hattempt, hbegan, ← Nat.add_assoc, ← hnow]
  · exact (hstatus y hy).trans hsource

/-- The calls of a list come at once, after two seconds, and after four more. -/
theorem IsTimely.times_begin (h : x.IsTimely start now) :
    x.calls.map (·.1) <+: [x.began, x.began + 2000, x.began + 6000] := by
  have hall : [x.began, x.began + 2000, x.began + 6000] =
      (List.range Fetcher.attempts).map fun k => x.began + Fetcher.delay k := rfl
  have hrange : List.range x.calls.length = (List.range Fetcher.attempts).take x.calls.length := by
    rw [List.take_range, Nat.min_eq_left h.length_le]
  rw [h.times_eq, hall, hrange]
  exact (List.take_prefix _ _).map _

/-- The last turn of a list is its last call, if there was one. -/
theorem IsTimely.last_eq_getD (h : x.IsTimely start now) :
    x.last = ((x.calls.map (·.1)).getLast?).getD x.began := by
  rw [h.times_eq, h.last_eq, backoff]
  cases x.calls.length with
  | zero => rfl
  | succ n => rw [List.range_succ, List.map_append, List.map_singleton, List.getLast?_concat]; rfl

/-- After its last turn a list is not in work, unless there is something left to do for it. -/
theorem isInWork_of_last_le (h : x.IsTimely start now) (hnow : now ≤ time) :
    x.isInWork time = x.job?.isSome := by
  have hlast := h.last_le
  have hbegan := h.began_le
  rw [isInWork, decide_eq_true (by omega), decide_eq_false (by omega), Bool.or_false, Bool.true_and]

end Stint

namespace Pass

variable {f : Fetcher} {now : Moment} {p : Pass} {st : Stock} {xs : List Stint} {start : Nat}

/-! ## Steps -/

/-- The stints after a step. -/
def note (f : Fetcher) (now : Moment) (p : Pass) (st : Stock) (xs : List Stint) : List Stint :=
  match p.waiting with
  | s :: _ =>
    if p.running.length < f.limit then xs ++ [.taken f now s st] else call
  | [] => call
where
  /-- Takes note of the attempt that is due first. -/
  call : List Stint :=
    match earliest? p.running with
    | some (j, _) => Stint.record j (Stint.called f now j st) xs
    | none => xs

theorem place_eq (p : Pass) (turn : Turn) : p.place turn = ⟨p.waiting,
    p.running ++ turn.job?.toList, p.finished ++ turn.status?.toList⟩ := by
  cases turn with
  | goesOn j => rw [place, Turn.job?, Turn.status?, Option.toList_none, List.append_nil]; rfl
  | ends y => rw [place, Turn.job?, Turn.status?, Option.toList_none, List.append_nil]; rfl

/-- A step takes the list that waits longest into work, or no list can be taken into work, and it
makes the attempt that is due first. -/
theorem step_cases (h : p.isDone = false) (now : Moment) (st : Stock) (xs : List Stint) :
    (∃ s waiting, p.waiting = s :: waiting ∧ p.running.length < f.limit ∧
      step f now p st = (place ⟨waiting, p.running, p.finished⟩ (begin f now s st).1,
        (begin f now s st).2) ∧
      note f now p st xs = xs ++ [.taken f now s st]) ∨
    ∃ j before after, p.running = before ++ j :: after ∧
      (p.waiting ≠ [] → f.limit ≤ p.running.length) ∧
      earliest? p.running = some (j, before ++ after) ∧
      step f now p st = (place ⟨p.waiting, before ++ after, p.finished⟩ (attempt f now j st).1,
        (attempt f now j st).2) ∧
      note f now p st xs = Stint.record j (Stint.called f now j st) xs := by
  obtain ⟨waiting, running, finished⟩ := p
  have hcall : ∀ hne : running ≠ [], (waiting ≠ [] → f.limit ≤ running.length) →
      ∃ j before after, running = before ++ j :: after ∧
        (waiting ≠ [] → f.limit ≤ running.length) ∧
        earliest? running = some (j, before ++ after) ∧
        step.next f now ⟨waiting, running, finished⟩ st =
          (place ⟨waiting, before ++ after, finished⟩ (attempt f now j st).1,
            (attempt f now j st).2) ∧
        note.call f now ⟨waiting, running, finished⟩ st xs =
          Stint.record j (Stint.called f now j st) xs := by
    intro hne hfull
    obtain ⟨j, rest, hj⟩ := exists_earliest? hne
    obtain ⟨before, after, hrunning, rfl⟩ := append_of_earliest? hj
    refine ⟨j, before, after, hrunning, hfull, hj, ?_, ?_⟩
    · rw [step.next]
      dsimp only
      rw [hj]
    · rw [note.call]
      dsimp only
      rw [hj]
  rw [step, note]
  rcases waiting with _ | ⟨s, waiting⟩
  · -- no list waits, so there must be work
    refine Or.inr (hcall ?_ fun hne => absurd rfl hne)
    rintro rfl
    cases h
  · dsimp only
    by_cases hroom : running.length < f.limit
    · rw [if_pos hroom, if_pos hroom]
      exact Or.inl ⟨s, waiting, rfl, hroom, rfl, rfl⟩
    · rw [if_neg hroom, if_neg hroom]
      refine Or.inr (hcall ?_ fun _ => Nat.le_of_not_lt hroom)
      -- there is room for at least one
      rintro rfl
      exact hroom (Nat.lt_of_lt_of_le Nat.zero_lt_one (Nat.le_max_right _ _))

/-! ## What steps preserve -/

/-- What holds of a pass that began at some time and has come to another: the lists are taken into
work in their order, their turns come when they are due, and as long as lists wait as many are in
work as may be. -/
structure OnTime (f : Fetcher) (start now : Nat) (p : Pass) (xs : List Stint) : Prop where
  sources_eq : xs.map (·.source) ++ p.waiting = f.sources
  pairwise : (xs.map (·.began)).Pairwise (· ≤ ·)
  jobs_perm : (xs.filterMap Stint.job?).Perm p.running
  statuses_perm : (xs.filterMap Stint.status?).Perm p.finished
  isTimely : ∀ x ∈ xs, x.IsTimely start now
  room : p.running.length ≤ f.limit
  load_le : ∀ time < now, xs.countP (·.isInWork time) ≤ f.limit
  load_ge : ∀ time < now, start ≤ time → (p.waiting ≠ [] ∨ ∃ x ∈ xs, time < x.began) →
    f.limit ≤ xs.countP (·.isInWork time)

theorem onTime_start (f : Fetcher) (start : Nat) : (Pass.start f).OnTime f start start [] where
  sources_eq := rfl
  pairwise := List.Pairwise.nil
  jobs_perm := List.Perm.refl _
  statuses_perm := List.Perm.refl _
  isTimely := fun x hx => by cases hx
  room := Nat.zero_le _
  load_le := fun _ _ => Nat.zero_le _
  load_ge := fun _ hlt hle => absurd hle (Nat.not_le_of_lt hlt)

/-- To pick out one element picks out what comes of it. -/
theorem filterMap_middle {α β : Type} (g : α → Option β) (before : List α) (x : α)
    (after : List α) : ((before ++ x :: after).filterMap g).Perm
      ((before ++ after).filterMap g ++ (g x).toList) := by
  rw [List.filterMap_append, List.filterMap_append]
  rcases hx : g x with _ | y
  · rw [List.filterMap_cons_none hx, Option.toList_none, List.append_nil]
  · rw [List.filterMap_cons_some hx]
    exact List.perm_middle.trans (List.perm_append_singleton _ _).symm

namespace OnTime

variable {now' : Nat}

theorem mem_running_iff (h : p.OnTime f start now' xs) {j : Job} :
    j ∈ p.running ↔ ∃ x ∈ xs, x.job? = some j := by
  rw [← h.jobs_perm.mem_iff, List.mem_filterMap]

/-- From now on the lists are in work for which there is something left to do. -/
theorem countP_eq (h : p.OnTime f start now' xs) {time : Nat} (hnow : now' ≤ time) :
    xs.countP (·.isInWork time) = p.running.length := by
  rw [← h.jobs_perm.length_eq, List.length_filterMap_eq_countP]
  exact List.countP_congr fun x hx => by rw [Stint.isInWork_of_last_le (h.isTimely x hx) hnow]

/-- At no time are more lists in work than may be. -/
theorem countP_le (h : p.OnTime f start now' xs) (time : Nat) :
    xs.countP (·.isInWork time) ≤ f.limit := by
  rcases Nat.lt_or_ge time now' with hlt | hge
  · exact h.load_le time hlt
  · rw [h.countP_eq hge]
    exact h.room

/-- Time goes by until something is due. -/
theorem wait (h : p.OnTime f start now' xs) {time : Nat} (hnow : now' ≤ time)
    (hdue : ∀ due, p.due? f now' = some due → time ≤ due) : p.OnTime f start time xs := by
  have hjobs : ∀ j ∈ p.running, time ≤ j.due := by
    intro j hj
    obtain ⟨first, hfirst⟩ := exists_earliest? (List.ne_nil_of_mem hj)
    obtain ⟨x, hx, hjob⟩ := h.mem_running_iff.mp hj
    obtain ⟨-, -, -, hlater⟩ := (h.isTimely x hx).job j hjob
    by_cases hroom : (!p.waiting.isEmpty && decide (p.running.length < f.limit)) = true
    · exact Nat.le_trans (hdue now' (by rw [due?, if_pos hroom])) hlater
    · obtain ⟨rest, hfirst⟩ := hfirst
      have hle := due_of_earliest? hfirst j hj
      have := hdue (max now' first.due) (by rw [due?, if_neg hroom, hfirst]; rfl)
      omega
  -- while time goes by, nothing changes
  have hload : ∀ t, now' ≤ t → xs.countP (·.isInWork t) = p.running.length := fun t ht =>
    h.countP_eq ht
  refine ⟨h.sources_eq, h.pairwise, h.jobs_perm, h.statuses_perm, fun x hx =>
    (h.isTimely x hx).wait hnow fun j hj => hjobs j (h.mem_running_iff.mpr ⟨x, hx, hj⟩), h.room,
    fun t _ => h.countP_le t, fun t ht hstart hwaits => ?_⟩
  rcases Nat.lt_or_ge t now' with hlt | hge
  · exact h.load_ge t hlt hstart hwaits
  · rw [hload t hge]
    rcases hwaits with hwaiting | ⟨x, hx, hbegan⟩
    · -- otherwise a list would have been taken into work at once
      by_contra hroom
      have hfree : (!p.waiting.isEmpty && decide (p.running.length < f.limit)) = true := by
        rw [Bool.and_eq_true, Bool.not_eq_true', List.isEmpty_eq_false_iff, decide_eq_true_iff]
        exact ⟨hwaiting, Nat.lt_of_not_le hroom⟩
      have := hdue now' (by rw [due?, if_pos hfree])
      omega
    · have := (h.isTimely x hx).began_le
      omega

/-- A list that waits is taken into work. -/
theorem begin (h : p.OnTime f start now.timer xs) {s : Source} {waiting : List Source}
    (hwaiting : p.waiting = s :: waiting) (hroom : p.running.length < f.limit)
    (hstart : start ≤ now.timer) (st : Stock) :
    (place ⟨waiting, p.running, p.finished⟩ (Pass.begin f now s st).1).OnTime f start now.timer
      (xs ++ [.taken f now s st]) := by
  obtain ⟨hjob, hstatus⟩ := begin_turn f now s st
  -- it was not in work before
  have hload : ∀ time < now.timer, (xs ++ [Stint.taken f now s st]).countP (·.isInWork time) =
      xs.countP (·.isInWork time) := by
    intro time htime
    have hnot : (Stint.taken f now s st).isInWork time = false := by
      rw [Stint.isInWork, Stint.taken, decide_eq_false (Nat.not_le_of_lt htime), Bool.false_and]
    rw [List.countP_append, List.countP_singleton, hnot, if_neg Bool.false_ne_true, Nat.add_zero]
  rw [place_eq]
  refine ⟨?_, ?_, ?_, ?_, ?_, ?_, fun time htime => ?_, fun time htime hle _ => ?_⟩
  · rw [List.map_append, List.append_assoc, ← h.sources_eq, hwaiting]
    rfl
  · rw [List.map_append, List.map_singleton, List.pairwise_append]
    refine ⟨h.pairwise, List.pairwise_singleton _ _, fun b hb time htime => ?_⟩
    obtain ⟨x, hx, rfl⟩ := List.mem_map.mp hb
    rw [List.mem_singleton.mp htime]
    exact (h.isTimely x hx).began_le
  · have hnew := filterMap_middle Stint.job? xs (.taken f now s st) []
    rw [List.append_nil] at hnew
    exact hnew.trans (h.jobs_perm.append_right _)
  · have hnew := filterMap_middle Stint.status? xs (.taken f now s st) []
    rw [List.append_nil] at hnew
    exact hnew.trans (h.statuses_perm.append_right _)
  · intro x hx
    rcases List.mem_append.mp hx with hx | hx
    · exact h.isTimely x hx
    · rw [List.mem_singleton.mp hx]
      refine ⟨hstart, rfl, Nat.le_refl _, rfl, Nat.zero_le _, fun j hj => ?_, hstatus⟩
      rw [hjob j hj]
      exact ⟨rfl, rfl, rfl, Nat.le_refl _⟩
  · have hnew : (Pass.begin f now s st).1.job?.toList.length ≤ 1 := Option.length_toList_le
    rw [List.length_append]
    dsimp only
    omega
  · rw [hload time htime]
    exact h.load_le time htime
  · rw [hload time htime]
    exact h.load_ge time htime hle (Or.inl (by rw [hwaiting]; exact List.cons_ne_nil _ _))

/-- The call that is due first is made. -/
theorem attempt (h : p.OnTime f start now.timer xs) {j : Job} {before after : List Job}
    (hrunning : p.running = before ++ j :: after) (hdue : j.due = now.timer)
    (hbound : j.attempt ≤ Fetcher.attempts) (st : Stock) :
    (place ⟨p.waiting, before ++ after, p.finished⟩ (Pass.attempt f now j st).1).OnTime f start
      now.timer (Stint.record j (Stint.called f now j st) xs) := by
  have hmem : j ∈ xs.filterMap Stint.job? := h.jobs_perm.symm.subset (by rw [hrunning]; simp)
  obtain ⟨first, x, last, rfl, hx, hrecord⟩ := Stint.exists_record hmem (Stint.called f now j st)
  have htimely := (h.isTimely x (by simp)).called hx hdue hbound f st
  rw [hrecord, place_eq]
  -- until now the list was in work, and it still is said to have been
  have hload : ∀ time < now.timer,
      (first ++ x.called f now j st :: last).countP (·.isInWork time) =
        (first ++ x :: last).countP (·.isInWork time) := by
    intro time htime
    have hsame : (x.called f now j st).isInWork time = x.isInWork time := by
      rw [Stint.isInWork, Stint.isInWork, hx, Stint.called, decide_eq_true htime, Bool.or_true,
        Option.isSome_some, Bool.true_or]
    rw [List.countP_append, List.countP_append, List.countP_cons, List.countP_cons, hsame]
  refine ⟨?_, ?_, ?_, ?_, fun y hy => ?_, ?_, fun time htime => ?_, fun time htime hle hwaits => ?_⟩
  · rw [← h.sources_eq, List.map_append, List.map_append]
    rfl
  · have hpairwise := h.pairwise
    rw [List.map_append, List.map_cons] at hpairwise ⊢
    exact hpairwise
  · have hjobs := h.jobs_perm
    rw [hrunning] at hjobs
    have hold := (filterMap_middle Stint.job? first x last).symm.trans
      (hjobs.trans (List.perm_middle.trans (List.perm_append_singleton _ _).symm))
    rw [hx, Option.toList_some, List.perm_append_right_iff] at hold
    exact (filterMap_middle Stint.job? first _ last).trans (hold.append_right _)
  · have hold := (filterMap_middle Stint.status? first x last).symm.trans h.statuses_perm
    rw [Stint.status?_eq_none hx, Option.toList_none, List.append_nil] at hold
    exact (filterMap_middle Stint.status? first _ last).trans (hold.append_right _)
  · rw [List.mem_append, List.mem_cons] at hy
    rcases hy with hy | rfl | hy
    · exact h.isTimely y (by simp [hy])
    · exact htimely
    · exact h.isTimely y (by simp [hy])
  · have hlength := h.room
    have hnew : (Pass.attempt f now j st).1.job?.toList.length ≤ 1 := Option.length_toList_le
    rw [hrunning, List.length_append, List.length_cons] at hlength
    rw [List.length_append, List.length_append]
    omega
  · rw [hload time htime]
    exact h.load_le time htime
  · rw [hload time htime]
    refine h.load_ge time htime hle (hwaits.imp_right ?_)
    rintro ⟨y, hy, hlater⟩
    rw [List.mem_append, List.mem_cons] at hy
    rcases hy with hy | rfl | hy
    · exact ⟨y, by simp [hy], hlater⟩
    · exact ⟨x, by simp, hlater⟩
    · exact ⟨y, by simp [hy], hlater⟩

/-- What is due is done. -/
theorem step (h : p.OnTime f start now.timer xs) (hof : p.IsOf f) (hdone : p.isDone = false)
    (hstart : start ≤ now.timer) (hdue : p.due? f now.timer = some now.timer) (st : Stock) :
    (step f now p st).1.OnTime f start now.timer (note f now p st xs) ∧
      ∃ x ∈ note f now p st xs, x.last = now.timer := by
  rcases step_cases hdone now st xs with ⟨s, waiting, hwaiting, hroom, hstep, hnote⟩ |
      ⟨j, before, after, hrunning, hfull, hfirst, hstep, hnote⟩
  · rw [hstep, hnote]
    exact ⟨h.begin hwaiting hroom hstart st, _,
      List.mem_append_right _ (List.mem_singleton_self _), rfl⟩
  · have hj : j ∈ p.running := by rw [hrunning]; simp
    have hmem : j ∈ xs.filterMap Stint.job? := h.jobs_perm.symm.subset hj
    obtain ⟨x, hx, hsame⟩ := h.mem_running_iff.mp hj
    -- the call is not late either
    have hthen : j.due = now.timer := by
      obtain ⟨-, -, -, hlater⟩ := (h.isTimely x hx).job j hsame
      have hfree : ¬ (!p.waiting.isEmpty && decide (p.running.length < f.limit)) = true := by
        rw [Bool.and_eq_true, Bool.not_eq_true', List.isEmpty_eq_false_iff, decide_eq_true_iff]
        exact fun hroom => Nat.not_le_of_lt hroom.2 (hfull hroom.1)
      rw [due?, if_neg hfree, hfirst] at hdue
      have hnow : max now.timer j.due = now.timer := Option.some.inj hdue
      omega
    rw [hstep, hnote]
    refine ⟨h.attempt hrunning hthen (hof.attempt_bounds j hj).2 st, ?_⟩
    obtain ⟨first, y, last, -, -, hrecord⟩ := Stint.exists_record hmem (Stint.called f now j st)
    rw [hrecord]
    exact ⟨_, List.mem_append_right _ (List.mem_cons_self ..), rfl⟩

/-- The calls are those that the network has heard. -/
theorem calls_eq (h : p.OnTime f start now.timer xs) (hdone : p.isDone = false) (st : Stock) :
    ∃ made, (Pass.step f now p st).2.web.calls = st.web.calls ++ made ∧
      ((note f now p st xs).flatMap Stint.urls).Perm (xs.flatMap Stint.urls ++ made) := by
  rcases step_cases hdone now st xs with ⟨s, waiting, -, -, hstep, hnote⟩ |
      ⟨j, before, after, hrunning, -, -, hstep, hnote⟩
  · have hweb : (Pass.begin f now s st).2.web = st.web := by
      rw [begin_eq]
      rcases beginText? f now s st with _ | text <;> rfl
    rw [hstep, hnote, hweb, List.flatMap_append]
    exact ⟨[], (List.append_nil _).symm, List.Perm.refl _⟩
  · have hweb : (Pass.attempt f now j st).2.web = (st.web.call now.timer j.source.url).2 := by
      rw [attempt_eq]
      dsimp only
      split <;> rfl
    have hj : j ∈ p.running := by rw [hrunning]; simp
    obtain ⟨first, x, last, rfl, hx, hrecord⟩ := Stint.exists_record
      (h.jobs_perm.symm.subset hj) (Stint.called f now j st)
    obtain ⟨hsource, -⟩ := (h.isTimely x (by simp)).job j hx
    obtain ⟨-, -, -, hcalls⟩ := st.web.answer_call now.timer j.source.url
    rw [hstep, hnote, hweb, hcalls, hrecord]
    refine ⟨_, rfl, ?_⟩
    have hown : (x.called f now j st).urls = x.urls ++ [(now.timer, j.source.url)] := by
      rw [Stint.urls, Stint.called, List.map_append, hsource]
      rfl
    rw [List.flatMap_append, List.flatMap_cons, List.flatMap_append, List.flatMap_cons, hown]
    simp only [List.append_assoc]
    exact ((List.perm_append_comm).append_left _).append_left _

/-! ## How long a pass takes -/

/-- When a pass is done, it is done with all lists. -/
theorem job?_eq_none (h : p.OnTime f start now' xs) (hdone : p.isDone = true) {x : Stint}
    (hx : x ∈ xs) : x.job? = none := by
  rw [isDone, Bool.and_eq_true, List.isEmpty_iff, List.isEmpty_iff] at hdone
  by_contra hsome
  obtain ⟨j, hj⟩ := Option.ne_none_iff_exists'.mp hsome
  have hmem := h.mem_running_iff.mpr ⟨x, hx, hj⟩
  rw [hdone.2] at hmem
  cases hmem

/-- Each list is in work for as long as it waits between its calls. -/
theorem sum_backoff (h : p.OnTime f start now' xs) (hdone : p.isDone = true) :
    (xs.map Stint.backoff).sum =
      ∑ time ∈ Finset.Ico start now', xs.countP (·.isInWork time) := by
  have hlists : ∀ ys : List Stint, (∀ y ∈ ys, y.IsTimely start now' ∧ y.job? = none) →
      (ys.map Stint.backoff).sum =
        ∑ time ∈ Finset.Ico start now', ys.countP (·.isInWork time) := by
    intro ys hys
    induction ys with
    | nil => simp
    | cons y ys ih =>
      obtain ⟨htimely, hnone⟩ := hys y (List.mem_cons_self ..)
      have hlast := htimely.last_eq
      have hspan : (Finset.Ico start now').filter (fun time => y.isInWork time = true) =
          Finset.Ico y.began y.last := by
        ext time
        have hstart := htimely.start_le
        have hend := htimely.last_le
        rw [Finset.mem_filter, Finset.mem_Ico, Finset.mem_Ico, Stint.isInWork, hnone,
          Option.isSome_none, Bool.false_or, Bool.and_eq_true, decide_eq_true_iff,
          decide_eq_true_iff]
        omega
      have hown : y.backoff = ∑ time ∈ Finset.Ico start now', if y.isInWork time then 1 else 0 := by
        rw [← Finset.card_filter, hspan, Nat.card_Ico, hlast, Nat.add_sub_cancel_left]
      rw [List.map_cons, List.sum_cons, ih fun z hz => hys z (List.mem_cons_of_mem _ hz), hown,
        ← Finset.sum_add_distrib]
      exact Finset.sum_congr rfl fun time _ => by rw [List.countP_cons, Nat.add_comm]
  exact hlists xs fun x hx => ⟨h.isTimely x hx, h.job?_eq_none hdone hx⟩

theorem sum_backoff_le (h : p.OnTime f start now' xs) (hdone : p.isDone = true) :
    (xs.map Stint.backoff).sum ≤ f.limit * (now' - start) := by
  rw [h.sum_backoff hdone]
  refine (Finset.sum_le_card_nsmul _ _ _ fun time _ => h.countP_le time).trans ?_
  rw [Nat.card_Ico, smul_eq_mul, Nat.mul_comm]

theorem max_backoff_le (h : p.OnTime f start now' xs) :
    (xs.map Stint.backoff).max?.getD 0 ≤ now' - start := by
  rcases hmax : (xs.map Stint.backoff).max? with _ | m
  · exact Nat.zero_le _
  · obtain ⟨y, hy, rfl⟩ := List.mem_map.mp (List.max?_mem hmax)
    have hstart := (h.isTimely y hy).start_le
    have hover := (h.isTimely y hy).last_le
    have hlong := (h.isTimely y hy).last_eq
    rw [Option.getD_some]
    omega

/-- Before the list that is done with last is taken up, all room is used; from then on it is in
work. -/
theorem le_sum_backoff (h : p.OnTime f start now' xs) (hdone : p.isDone = true) {x : Stint}
    (hx : x ∈ xs) (hend : x.last = now') :
    (x.began - start) * f.limit + x.backoff ≤ (xs.map Stint.backoff).sum := by
  have htimely := h.isTimely x hx
  have hspan := htimely.last_eq
  have hbefore : ∀ time ∈ Finset.Ico start x.began, f.limit ≤ xs.countP (·.isInWork time) := by
    intro time htime
    rw [Finset.mem_Ico] at htime
    exact h.load_ge time (by omega) htime.1 (Or.inr ⟨x, hx, htime.2⟩)
  have hafter : ∀ time ∈ Finset.Ico x.began now', 1 ≤ xs.countP (·.isInWork time) := by
    intro time htime
    rw [Finset.mem_Ico] at htime
    refine List.countP_pos_iff.mpr ⟨x, hx, ?_⟩
    rw [Stint.isInWork, h.job?_eq_none hdone hx, hend, decide_eq_true htime.1,
      decide_eq_true htime.2]
    rfl
  have hfirst := Finset.card_nsmul_le_sum _ _ _ hbefore
  have hsecond := Finset.card_nsmul_le_sum _ _ _ hafter
  have hsplit := Finset.sum_Ico_consecutive (fun time => xs.countP (·.isInWork time))
    htimely.start_le (by omega : x.began ≤ now')
  rw [Nat.card_Ico, smul_eq_mul] at hfirst hsecond
  rw [h.sum_backoff hdone]
  omega

/-- How long a pass takes, if it ends with the last turn of a list: no longer than the lists wait
between their calls one after the other, and no shorter than with as many of them in work as may be
until the last of them is taken up. -/
theorem elapsed (h : p.OnTime f start now' xs) (hdone : p.isDone = true)
    (hlast : ∃ x ∈ xs, x.last = now') :
    let sum := (xs.map Stint.backoff).sum
    let most := (xs.map Stint.backoff).max?.getD 0
    most ≤ now' - start ∧ now' - start ≤ sum ∧ sum ≤ f.limit * (now' - start) ∧
      f.limit * (now' - start) ≤ sum + (f.limit - 1) * most := by
  intro sum most
  obtain ⟨x, hx, hend⟩ := hlast
  have hsum : (x.began - start) * f.limit + x.backoff ≤ sum := h.le_sum_backoff hdone hx hend
  have hmost : x.backoff ≤ most := List.le_max?_getD_of_mem (List.mem_map_of_mem hx)
  have hstart := (h.isTimely x hx).start_le
  have hspan := (h.isTimely x hx).last_eq
  have hpos : 1 ≤ f.limit := Nat.le_max_right _ _
  refine ⟨h.max_backoff_le, ?_, h.sum_backoff_le hdone, ?_⟩
  · have hone : (x.began - start) * 1 ≤ (x.began - start) * f.limit := Nat.mul_le_mul_left _ hpos
    omega
  · have hlong := Nat.mul_le_mul_left (f.limit - 1) hmost
    have htime : now' - start = x.began - start + x.backoff := by omega
    calc f.limit * (now' - start)
      _ = (x.began - start) * f.limit + f.limit * x.backoff := by
        rw [htime, Nat.mul_add, Nat.mul_comm f.limit (x.began - start)]
      _ = (x.began - start) * f.limit + x.backoff + (f.limit - 1) * x.backoff := by
        rw [Nat.add_assoc, ← one_add_mul, Nat.add_sub_cancel' hpos]
      _ ≤ sum + (f.limit - 1) * most := Nat.add_le_add hsum hlong

end OnTime

end Pass

end AdFilter
