import AdFilter.Proofs.Engine.Course

/-!
# What the scheduler attends to

While a pass of the scheduler is under way, it has left some lists and has still to leave the
others. `Course.Attends` says of both how long ago their last downloads were, and
`Course.Attends.move` that a step of the pass keeps it so: a list whose download is older than a day
is downloaded again. `Scheduler.IsOnTime` adds when the next tick is due. All this is said of two
kinds of runs: of those in which the lists are to be renewed at every tick, and of all others.
-/

namespace AdFilter

namespace Download

variable {d : Download} {gap begun : Nat} {everyTick byTick : Bool}

/-- How much longer a list may be in use than from one pass of the scheduler to the next: a pass may
have found the file young enough. If the lists are to be renewed at every tick, only one that the
scheduler was asked for may have done so. -/
def grace (everyTick : Bool) (d : Download) : Nat :=
  if everyTick && !d.asked then 0 else Cache.staleAfter

theorem grace_le (d : Download) : d.grace everyTick ≤ Cache.staleAfter := by
  rw [grace]
  split
  · exact Nat.zero_le _
  · exact Nat.le_refl _

theorem grace_of_asked (h : d.asked = true) : d.grace everyTick = Cache.staleAfter := by
  rw [grace, h, Bool.not_true, Bool.and_false, if_neg Bool.false_ne_true]

/-- What is known of the last download of a list that a pass of the scheduler has still to leave: it
was made since the last pass began, or soon before. If the lists are to be renewed at every tick, it
is too old, unless a pass that was asked for directly made it meanwhile, or this one was asked
for. -/
structure IsDue (everyTick : Bool) (gap begun : Nat) (byTick : Bool) (d : Download) : Prop where
  begun_le : begun ≤ d.time + d.grace everyTick + gap
  isOld : everyTick = true → (begun ≤ d.time ∧ d.scheduled = false) ∨
    if byTick then d.time + Cache.staleAfter < begun else d.asked = true

/-- If the file of such a list is found young enough, its download is not long ago. -/
theorem IsDue.begun_le_of_young (h : d.IsDue everyTick gap begun byTick) {now : Nat}
    (hbegun : begun ≤ now) (hyoung : now ≤ d.time + Cache.staleAfter) :
    begun ≤ d.time + d.grace everyTick ∧
      (everyTick = true → byTick = true → begun ≤ d.time ∧ d.scheduled = false) := by
  cases everyTick with
  | false => exact ⟨Nat.le_trans hbegun hyoung, fun htick => absurd htick Bool.false_ne_true⟩
  | true =>
    rcases h.isOld rfl with hmeanwhile | hold
    · exact ⟨Nat.le_trans hmeanwhile.1 (Nat.le_add_right _ _), fun _ _ => hmeanwhile⟩
    · cases byTick with
      | true =>
        rw [if_pos rfl] at hold
        omega
      | false =>
        rw [if_neg Bool.false_ne_true] at hold
        rw [grace_of_asked hold]
        exact ⟨Nat.le_trans hbegun hyoung, fun _ htick => absurd htick Bool.false_ne_true⟩

end Download

namespace Course

variable {f : Fetcher} {wall : Nat → Int} {gap : Nat} {everyTick : Bool} {acts : Course}
  {x : Source} {d : Download}

/-! ## What is read from a course -/

/-- The last download of a list, once some list was left: it was made just now, or before. -/
theorem download?_concat_left {time : Nat} {scheduled : Bool} {l : Leaving}
    (hd : download? x (acts ++ [(time, .left scheduled l)]) = some d) :
    (l.status.source = x ∧ l.status.outcome = some .downloaded ∧ d = ⟨time, scheduled, false⟩) ∨
      ((l.status.source = x → l.status.outcome ≠ some .downloaded) ∧
        download? x acts = some d) := by
  rw [download?_concat, downloadThen?] at hd
  split at hd
  · rename_i hnow
    exact Or.inl ⟨hnow.1, hnow.2, (Option.some.inj hd).symm⟩
  · rename_i hbefore
    exact Or.inr ⟨fun hsource houtcome => hbefore ⟨hsource, houtcome⟩, hd⟩

/-- Whether the files of the lists are dated with their last downloads. -/
def IsDated (f : Fetcher) (wall : Nat → Int) (acts : Course) (files : Files) : Prop :=
  ∀ x ∈ f.sources, ∀ d, download? x acts = some d →
    ∃ c, files.stat? (f.cachePath x) = some (.file c (wall d.time))

/-- Whether a list that is left was downloaded, if it was downloaded before: else that was a day ago
at most. If the lists are to be renewed at every tick, a pass that began at a tick has downloaded
it, or else a pass that was asked for directly has, since the tick. -/
def IsRenewed (everyTick : Bool) (start : Nat) (before : Course) : Nat × Act → Prop
  | (time, .left scheduled l) => ∀ d, download? l.status.source before = some d →
    l.status.outcome = some .downloaded ∨
      (time ≤ d.time + Cache.staleAfter ∧
        (everyTick = true → scheduled = true → byTick before = true →
          begun start before ≤ d.time ∧ d.scheduled = false))
  | _ => True

/-! ## A step of a pass -/

variable {p q : Pass} {st st' : Stock} {made : Pass.Log} {moment : Moment} {scheduled : Bool}

/-- The file of a list that is not downloaded keeps its date, and one that is gets a new one. -/
theorem IsDated.move (hf : st.files.IsTree) (hp : p.IsOf f)
    (hplaces : (f.sources.map fun x => st.files.placeOf (f.cachePath x)).Nodup)
    (hmove : Pass.Move f moment p st made q st') (hwall : moment.wall = wall moment.timer)
    {y : SourceStatus} (hended : p.ended q = [y])
    (hheld : (Pass.leaving f moment st st' y).IsHeld) (h : IsDated f wall acts st.files) :
    IsDated f wall (acts ++ [(moment.timer, .left scheduled (Pass.leaving f moment st st' y))])
      st'.files := by
  intro x hx d hd
  have hy : y ∈ p.ended q := by
    rw [hended]
    exact List.mem_singleton_self y
  rcases download?_concat_left hd with ⟨hsame, hdownloaded, rfl⟩ | ⟨hother, hd⟩
  · -- the list that was left, and no other way of holding it goes with a download
    have hstored : (Pass.leaving f moment st st' y).stored = true := by
      rcases hheld with hcached | hstored
      · rw [hdownloaded] at hcached
        cases hcached
      · exact hstored.2
    obtain ⟨text, hstat, -⟩ := hmove.stat?_of_downloaded hf hy hdownloaded hstored
    rw [hwall, show y.source = x from hsame] at hstat
    exact ⟨_, hstat⟩
  · obtain ⟨c, hstat⟩ := h x hx d hd
    refine ⟨c, Files.stat?_of_grows (hmove.grows hf hp) hstat ?_⟩
    rintro (⟨s, -, hplace⟩ | ⟨z, hz, hsource, houtcome, hplace⟩)
    · exact Cache.placeOf_temporary_ne _ _ s.name x.name hplace.symm
    · rw [hended, List.mem_singleton] at hz
      subst hz
      exact hother (List.inj_on_of_nodup_map hplaces hx hsource hplace).symm houtcome

/-- What is known of the lists while a pass of the scheduler is under way. -/
structure Attends (f : Fetcher) (everyTick : Bool) (gap begun : Nat) (acts : Course) (p : Pass) :
    Prop where
  renewed : ∀ x ∈ f.sources, ∀ d, download? x acts = some d →
    x ∈ p.finished.map (·.source) → begun ≤ d.time + d.grace everyTick
  due : ∀ x ∈ f.sources, ∀ d, download? x acts = some d →
    x ∉ p.finished.map (·.source) → d.IsDue everyTick gap begun (byTick acts)

theorem mem_sources_of_ended (hp : p.IsOf f) (hmove : Pass.Move f moment p st made q st')
    {y : SourceStatus} (hended : p.ended q = [y]) : y.source ∈ f.sources := by
  refine (hmove.isOf hp).mem_sources_of_finished ?_
  rw [hmove.finished_eq, hended]
  exact List.mem_append_right _ (List.mem_singleton_self y)

/-- A pass that has left a list had not left it before. -/
theorem not_mem_finished (hnodup : f.sources.Nodup) (hp : p.IsOf f)
    (hmove : Pass.Move f moment p st made q st') {y : SourceStatus} (hended : p.ended q = [y]) :
    y.source ∉ p.finished.map (·.source) := by
  intro hmem
  have hdone := (List.nodup_append.mp ((hmove.isOf hp).sources_perm.nodup_iff.mpr hnodup)).2.1
  rw [hmove.finished_eq, hended, List.map_append] at hdone
  exact (List.nodup_append.mp hdone).2.2 _ hmem _ (List.mem_singleton_self _) rfl

/-- The last download of a list whose file is found young enough is not long ago. -/
theorem IsDated.le_of_cached (hadd : ∀ t k : Nat, wall (t + k) = wall t + k)
    (hmove : Pass.Move f moment p st made q st') (hwall : moment.wall = wall moment.timer)
    (h : IsDated f wall acts st.files) {y : SourceStatus} (hy : y ∈ p.ended q)
    (hcached : y.outcome = some .cached) (hsource : y.source ∈ f.sources)
    (hd : download? y.source acts = some d) (htime : d.time ≤ moment.timer) :
    moment.timer ≤ d.time + Cache.staleAfter := by
  obtain ⟨text, modified, hstat, hyoung, -⟩ := hmove.stat?_of_cached hy hcached
  obtain ⟨c, hdated⟩ := h _ hsource d hd
  rw [hstat] at hdated
  obtain ⟨-, rfl⟩ := FileEntry.file.inj (Option.some.inj hdated)
  obtain ⟨age, hage⟩ := Nat.exists_eq_add_of_le htime
  rw [hwall, hage, hadd] at hyoung
  rw [hage]
  omega

/-- Whichever pass leaves a list downloads it, if its last download is older than a day. -/
theorem IsDated.downloaded_or_le (hadd : ∀ t k : Nat, wall (t + k) = wall t + k) (hp : p.IsOf f)
    (hmove : Pass.Move f moment p st made q st') (hwall : moment.wall = wall moment.timer)
    (h : IsDated f wall acts st.files) {y : SourceStatus} (hended : p.ended q = [y])
    (hheld : (Pass.leaving f moment st st' y).IsHeld)
    (htime : ∀ d, download? y.source acts = some d → d.time ≤ moment.timer) :
    ∀ d, download? y.source acts = some d →
      y.outcome = some .downloaded ∨ moment.timer ≤ d.time + Cache.staleAfter := by
  intro d hd
  have hy : y ∈ p.ended q := by
    rw [hended]
    exact List.mem_singleton_self y
  rcases hheld with hcached | hstored
  · exact Or.inr (h.le_of_cached hadd hmove hwall hy hcached
      (mem_sources_of_ended hp hmove hended) hd (htime d hd))
  · exact Or.inl hstored.1

/-- A step of a pass of the scheduler that leaves a list. -/
theorem Attends.move (hnodup : f.sources.Nodup) (hp : p.IsOf f)
    (hmove : Pass.Move f moment p st made q st') {y : SourceStatus} (hended : p.ended q = [y])
    {begun : Nat} (hbegun : begun ≤ moment.timer)
    (hrenewed : ∀ d, download? y.source acts = some d →
      y.outcome = some .downloaded ∨ moment.timer ≤ d.time + Cache.staleAfter)
    (h : Attends f everyTick gap begun acts p) :
    Attends f everyTick gap begun
        (acts ++ [(moment.timer, .left true (Pass.leaving f moment st st' y))]) q ∧
      ∀ d, download? y.source acts = some d → y.outcome = some .downloaded ∨
        (everyTick = true → byTick acts = true → begun ≤ d.time ∧ d.scheduled = false) := by
  have hsource := mem_sources_of_ended hp hmove hended
  have hnew := not_mem_finished hnodup hp hmove hended
  have hfinished := hmove.finished_eq
  rw [hended] at hfinished
  -- a list that is not downloaded was so not long ago
  have hyoung : ∀ d, download? y.source acts = some d → y.outcome = some .downloaded ∨
      (begun ≤ d.time + d.grace everyTick ∧
        (everyTick = true → byTick acts = true → begun ≤ d.time ∧ d.scheduled = false)) :=
    fun d hd => (hrenewed d hd).imp_right fun hle =>
      (h.due _ hsource d hd hnew).begun_le_of_young hbegun hle
  refine ⟨⟨fun x hx d hd hdone => ?_, fun x hx d hd hdone => ?_⟩, fun d hd =>
    (hyoung d hd).imp_right And.right⟩
  · rcases download?_concat_left hd with ⟨-, -, rfl⟩ | ⟨hother, hd⟩
    · exact Nat.le_trans hbegun (Nat.le_add_right _ _)
    · by_cases hsame : y.source = x
      · subst hsame
        exact ((hyoung d hd).resolve_left (hother rfl)).1
      · rw [hfinished, List.map_append, List.mem_append] at hdone
        refine h.renewed x hx d hd (hdone.resolve_right fun hlast => ?_)
        exact hsame (List.mem_singleton.mp hlast).symm
  · rw [hfinished, List.map_append, List.mem_append, not_or] at hdone
    have hsame : y.source ≠ x := fun hsame => hdone.2 (by rw [← hsame]; simp)
    rw [byTick_concat_left]
    rcases download?_concat_left hd with ⟨hsource, -⟩ | ⟨-, hd⟩
    · exact absurd hsource hsame
    · exact h.due x hx d hd hdone.1

end Course

/-! ## The scheduler -/

namespace Scheduler

/-- What is known of the next tick, some time after the scheduler began its last pass: it is due
when a period will have gone by since, or before, if passes last longer than that. -/
structure IsTimed (period limit begun : Nat) (sch : Scheduler) : Prop where
  period_eq : sch.period = period
  period_le : period ≤ sch.next
  next_le : sch.next ≤ begun + period
  next_eq : limit ≤ period → sch.next = begun + period

/-- What is known of the scheduler: its next tick is due in time, and it has attended to all lists
in its last pass, or does so. -/
structure IsOnTime (f : Fetcher) (everyTick : Bool) (period limit start : Nat) (acts : Course)
    (now : Nat) (sch : Scheduler) : Prop where
  isTimed : sch.hasFailed = false → sch.IsTimed period limit (Course.begun start acts)
  idle : sch.phase = .idle → now ≤ max sch.next (Course.begun start acts + limit) ∧
    ∀ x ∈ f.sources, ∀ d, Course.download? x acts = some d →
      Course.begun start acts ≤ d.time + d.grace everyTick
  busy : ∀ p, sch.phase = .busy p →
    Course.Attends f everyTick (max period limit) (Course.begun start acts) acts p

variable {f : Fetcher} {everyTick : Bool} {period limit start now : Nat} {acts : Course}
  {sch c : Scheduler}

theorem IsTimed.of_eq {begun : Nat} (h : sch.IsTimed period limit begun)
    (hperiod : c.period = sch.period) (hnext : c.next = sch.next) :
    c.IsTimed period limit begun := by
  refine ⟨hperiod.trans h.period_eq, ?_, ?_, fun hlimit => hnext.trans (h.next_eq hlimit)⟩
  · rw [hnext]
    exact h.period_le
  · rw [hnext]
    exact h.next_le

/-- A list that another pass leaves is no older by that. -/
theorem IsOnTime.left (h : sch.IsOnTime f everyTick period limit start acts now)
    (hbegun : Course.begun start acts ≤ now) (l : Leaving) :
    sch.IsOnTime f everyTick period limit start (acts ++ [(now, .left false l)]) now := by
  have hnow : Course.begun start acts ≤
      now + (⟨now, false, false⟩ : Download).grace everyTick :=
    Nat.le_trans hbegun (Nat.le_add_right _ _)
  refine ⟨?_, fun hphase => ⟨?_, fun x hx d hd => ?_⟩, fun p hphase => ?_⟩
  · rw [Course.begun_concat]
    exact h.isTimed
  · rw [Course.begun_concat]
    exact (h.idle hphase).1
  · rw [Course.begun_concat]
    rcases Course.download?_concat_left hd with ⟨-, -, rfl⟩ | ⟨-, hd⟩
    · exact hnow
    · exact (h.idle hphase).2 x hx d hd
  · rw [Course.begun_concat]
    refine ⟨fun x hx d hd hdone => ?_, fun x hx d hd hdone => ?_⟩
    · rcases Course.download?_concat_left hd with ⟨-, -, rfl⟩ | ⟨-, hd⟩
      · exact hnow
      · exact (h.busy p hphase).renewed x hx d hd hdone
    · rcases Course.download?_concat_left hd with ⟨-, -, rfl⟩ | ⟨-, hd⟩
      · exact ⟨Nat.le_trans hnow (Nat.le_add_right _ _), fun _ => Or.inl ⟨hbegun, rfl⟩⟩
      · rw [Course.byTick_concat_left]
        exact (h.busy p hphase).due x hx d hd hdone

theorem IsOnTime.trigger (h : sch.IsOnTime f everyTick period limit start acts now) :
    sch.trigger.2.IsOnTime f everyTick period limit start acts now := by
  rw [Scheduler.trigger]
  split
  · exact h
  · exact ⟨fun hgoesOn => (h.isTimed hgoesOn).of_eq rfl rfl, h.idle, h.busy⟩

/-- A pass begins, while all lists are still to be attended to. -/
theorem isOnTime_of_isDue {begun : Nat} (htimed : sch.IsTimed period limit begun)
    (hbegun : Course.begun start acts = begun)
    (hdue : ∀ x ∈ f.sources, ∀ d, Course.download? x acts = some d →
      d.IsDue everyTick (max period limit) begun (Course.byTick acts)) :
    ({ sch with phase := if (Pass.start f).isDone then .idle else .busy (Pass.start f) } :
      Scheduler).IsOnTime f everyTick period limit start acts begun := by
  rw [← hbegun] at htimed
  refine ⟨fun _ => htimed.of_eq rfl rfl, fun hphase => ?_, fun p hphase => ?_⟩
  · dsimp only at hphase
    split at hphase
    · -- there are no lists
      rename_i hdone
      rw [Pass.start, Pass.isDone, Bool.and_eq_true, List.isEmpty_iff] at hdone
      refine ⟨?_, fun x hx => ?_⟩
      · rw [hbegun]
        exact Nat.le_trans (Nat.le_add_right _ _) (Nat.le_max_right _ _)
      · have hnone : f.sources = [] := hdone.1
        rw [hnone] at hx
        cases hx
    · cases hphase
  · dsimp only at hphase
    split at hphase
    · cases hphase
    · cases hphase
      rw [hbegun]
      exact ⟨fun x _ d _ hdone => (by cases hdone), fun x hx d hd _ => hdue x hx d hd⟩

/-- An idle scheduler begins a pass before the last one is too long ago. -/
theorem IsOnTime.le_of_idle (h : sch.IsOnTime f everyTick period limit start acts now)
    (hphase : sch.phase = .idle) : now ≤ Course.begun start acts + max period limit := by
  have hnext := (h.isTimed (by rw [hasFailed, hphase])).next_le
  have hnow := (h.idle hphase).1
  omega

/-- When a tick is taken, all lists are too old, if they are to be renewed at every tick. -/
theorem IsOnTime.tick (hgt : everyTick = true → Cache.staleAfter + limit < period)
    (h : sch.IsOnTime f everyTick period limit start acts now) (hphase : sch.phase = .idle)
    (hdue : sch.next ≤ now) (htime : everyTick = true → ∀ x d, Course.download? x acts = some d →
      d.time ≤ Course.begun start acts + limit) :
    sch.takeTick.IsTimed period limit now ∧
      ∀ x ∈ f.sources, ∀ d, Course.download? x (acts ++ [(now, .tick)]) = some d →
        d.IsDue everyTick (max period limit) now (Course.byTick (acts ++ [(now, .tick)])) := by
  have htimed := h.isTimed (by rw [hasFailed, hphase])
  have hperiod := htimed.period_eq
  obtain ⟨hle, hused⟩ := h.idle hphase
  refine ⟨⟨hperiod, ?_, ?_, fun hlimit => ?_⟩, fun x hx d hd => ?_⟩
  · rw [takeTick]
    exact Nat.le_trans htimed.period_le (Nat.le_add_right _ _)
  · rw [takeTick, hperiod]
    exact Nat.add_le_add_right hdue _
  · have hnext := htimed.next_eq hlimit
    rw [takeTick, hperiod]
    dsimp only
    omega
  · rw [Course.byTick_concat_tick]
    rw [Course.download?_concat] at hd
    have hd : Course.download? x acts = some d := hd
    have hlast := hused x hx d hd
    have hnow := h.le_of_idle hphase
    refine ⟨by omega, fun hevery => Or.inr ?_⟩
    have hlong := hgt hevery
    have hnext := htimed.next_eq (by omega)
    have hsoon := htime hevery x d hd
    rw [if_pos rfl]
    omega

/-- When a request is taken, the pass before was not long ago. -/
theorem IsOnTime.request (h : sch.IsOnTime f everyTick period limit start acts now)
    (hphase : sch.phase = .idle) (hgoesOn : (sch.takeRequest now).hasFailed = false) :
    (sch.takeRequest now).IsTimed period limit now ∧
      ∀ x ∈ f.sources, ∀ d, Course.download? x (acts ++ [(now, .request)]) = some d →
        d.IsDue everyTick (max period limit) now (Course.byTick (acts ++ [(now, .request)])) := by
  have hperiod := (h.isTimed (by rw [hasFailed, hphase])).period_eq
  obtain ⟨-, hused⟩ := h.idle hphase
  rw [takeRequest] at hgoesOn ⊢
  split at hgoesOn
  · rename_i hlater
    rw [if_pos hlater, ← hperiod]
    refine ⟨⟨rfl, Nat.le_add_left _ _, Nat.le_refl _, fun _ => rfl⟩, fun x hx d hd => ?_⟩
    rw [Course.byTick_concat_request]
    rw [Course.download?_concat] at hd
    obtain ⟨e, he, rfl⟩ := Option.map_eq_some_iff.mp hd
    have hlast := hused x hx e he
    have hgrace : e.grace everyTick ≤ Cache.staleAfter := e.grace_le
    have hnow := h.le_of_idle hphase
    refine ⟨?_, fun _ => Or.inr rfl⟩
    rw [Download.grace_of_asked rfl]
    dsimp only
    omega
  · cases hgoesOn

end Scheduler

end AdFilter
