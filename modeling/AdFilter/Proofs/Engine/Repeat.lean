import AdFilter.Proofs.Engine.Course
import AdFilter.Proofs.Engine.Fresh
import AdFilter.Proofs.Engine.Hydration
import AdFilter.Proofs.Engine.Persistence

/-!
# Passes that are made again

A pass that has left every list held in the cache need not be made again: `System.repeats_spec` says
that any number of further passes, while the files are as they were left and not too old, make no
call, report the same of every list, and leave the rules as they are.

`System.leavings` collects how the lists are left by the pass of a refresh or a hydration, and
`System.Repeats` describes the passes that come after it.
-/

namespace AdFilter

open Text

/-- The same list, had from the cache. -/
def SourceStatus.asCached (x : SourceStatus) : SourceStatus := { x with outcome := some .cached }

namespace System

variable {s t u v w : System} {next? : System → Option (Nat × Event)} {fuel : Nat}

/-! ## Rules only come in -/

theorem within_follow (next? : System → Option (Nat × Event)) (fuel : Nat) (s : System) :
    s.engine.rules.Within (follow next? fuel s).engine.rules := by
  rw [follow_rules]
  exact RuleSet.within_changeAll fun c hc => adds_of_isLoad (isLoad_of_mem_followChanges hc)

theorem within_refresh (s : System) : s.engine.rules.Within s.refresh.engine.rules := by
  rw [refresh_rules]
  exact RuleSet.within_changeAll fun c hc => adds_of_isLoad (isLoad_of_mem_refreshChanges hc)

/-! ## How the lists are left -/

/-- How the pass that was asked for directly leaves lists by what is done at the time when it is
due. -/
def stepLeavings (s : System) (time : Nat) (e : Event) : List Leaving :=
  let s := { s with clock := { s.clock with timer := time } }
  match e with
  | .pass p => s.passLeavings p
  | _ => []

/-- How a refresh leaves the lists. -/
def refreshLeavings (s : System) : List Leaving :=
  if (Pass.start s.deliver.engine.fetcher).isDone then []
  else gather stepLeavings dueInPass? s.passFuel s.beginPass

/-- How the pass of a refresh or a hydration leaves the lists. -/
def leavings (s : System) : Operation → List Leaving
  | .hydrate => s.load.refreshLeavings
  | .refresh => s.refreshLeavings
  | _ => []

theorem map_status_stepLeavings (s : System) (time : Nat) (e : Event) :
    (s.stepLeavings time e).map (·.status) =
      ((s.stepReports time e).filter fun r => !r.scheduled).map (·.status) := by
  cases e with
  | pass p =>
    rw [stepReports]
    exact (Pass.map_status_leavings ..).trans (filter_not_scheduled false _).symm
  | scheduler sch =>
    obtain ⟨xs, hxs⟩ := exists_stepReports_scheduler s time sch
    rw [hxs, filter_not_scheduled, if_pos rfl]
    rfl
  | reporter r => rfl

theorem exists_report {time : Nat} {e : Event} {l : Leaving} (hl : l ∈ s.stepLeavings time e) :
    ∃ r ∈ s.stepReports time e, r.status = l.status := by
  have hmem := List.mem_map_of_mem (f := (·.status)) hl
  rw [map_status_stepLeavings] at hmem
  obtain ⟨r, hr, hstatus⟩ := List.mem_map.mp hmem
  exact ⟨r, (List.mem_filter.mp hr).1, hstatus⟩

theorem map_status_gather (next? : System → Option (Nat × Event)) (fuel : Nat)
    (s : System) : (gather stepLeavings next? fuel s).map (·.status) =
      ((followReports next? fuel s).filter fun r => !r.scheduled).map (·.status) := by
  induction fuel generalizing s with
  | zero => rfl
  | succ fuel ih =>
    rw [gather, followReports]
    rcases next? s with _ | ⟨time, e⟩
    · rfl
    · dsimp only
      rw [List.map_append, List.filter_append, List.map_append, ih, map_status_stepLeavings]

/-- A refresh leaves just the lists that its pass has reported on. -/
theorem map_status_refreshLeavings (s : System) : s.refreshLeavings.map (·.status) =
    (s.refreshReports.filter fun r => !r.scheduled).map (·.status) := by
  rw [refreshLeavings, refreshReports]
  split
  · rfl
  · exact map_status_gather ..

theorem refresh_statuses (hs : s.IsRegular) : s.refresh.engine.statuses =
    sortBy (·.source.name) (s.refreshLeavings.map (·.status)) := by
  obtain ⟨p, -, -, hstatuses, hfinished, -⟩ := exists_refresh hs
  rw [hstatuses, map_status_refreshLeavings, ← hfinished]
  rfl

theorem refreshLeavings_perm (hs : s.IsRegular) :
    (s.refreshLeavings.map (·.status.source)).Perm s.engine.fetcher.sources := by
  obtain ⟨p, hof, hdone, -, hfinished, -⟩ := exists_refresh hs
  have hperm := hof.finished_perm hdone
  rwa [hfinished, ← map_status_refreshLeavings, List.map_map] at hperm

/-! ## What is held -/

/-- Whether a list was left with a text in its file that the rules hold. -/
def HoldsText (s : System) (l : Leaving) : Prop :=
  ∃ text modified, l.file = some (.file (.text text) modified) ∧
    l.status.updated = some modified ∧ l.status.counts = countsOf text ∧
    s.engine.rules.Holds (FilterList.ofText text)

theorem HoldsText.mono {l : Leaving} (h : s.HoldsText l)
    (hwithin : s.engine.rules.Within t.engine.rules) : t.HoldsText l := by
  obtain ⟨text, modified, hfile, hupdated, hcounts, hholds⟩ := h
  exact ⟨text, modified, hfile, hupdated, hcounts, hholds.mono hwithin⟩

/-- What a step leaves a list with is what its file is then. -/
theorem stat?_step (s : System) {time : Nat} {e : Event} {l : Leaving}
    (hl : l ∈ s.stepLeavings time e) :
    (s.step time e).files.stat? (s.engine.fetcher.cachePath l.status.source) = l.file := by
  cases e with
  | pass p =>
    obtain ⟨x, -, rfl⟩ := List.mem_map.mp hl
    have hstock := stepPass_stock { s with clock := { s.clock with timer := time } } p
    exact congrArg (fun st : Stock => st.files.stat? (s.engine.fetcher.cachePath x.source)) hstock
  | scheduler sch => cases hl
  | reporter r => cases hl

theorem holdsText_step (hs : s.IsRegular) {x : Nat × Event} (hx : x ∈ s.events) {l : Leaving}
    (hl : l ∈ s.stepLeavings x.1 x.2) (hheld : l.IsHeld) : (s.step x.1 x.2).HoldsText l := by
  rcases mem_events_iff.mp hx with ⟨p, time, hp, -, rfl⟩ | ⟨sch, time, -, -, rfl⟩ | ⟨r, -, rfl⟩
  · obtain ⟨text, modified, hfile, hupdated, hcounts, hholds⟩ :=
      Pass.holds_of_mem_leavings hs.isTree (hs.pass p hp).isDone_eq hl hheld
    refine ⟨text, modified, hfile, hupdated, hcounts, ?_⟩
    have hstock := stepPass_stock { s with clock := { s.clock with timer := time } } p
    rw [← hstock] at hholds
    exact hholds
  · cases hl
  · cases hl

/-- What a loop has left held is in the rules in the end. -/
theorem holdsText_follow (hnext : ChoosesEvent next?) (hs : s.IsRegular) {l : Leaving}
    (hl : l ∈ gather stepLeavings next? fuel s) (hheld : l.IsHeld) :
    (follow next? fuel s).HoldsText l := by
  induction fuel generalizing s with
  | zero => cases hl
  | succ fuel ih =>
    rw [gather] at hl
    rw [follow]
    rcases hdue : next? s with _ | ⟨time, e⟩
    · rw [hdue] at hl
      cases hl
    · rw [hdue] at hl
      have hx := hnext s _ hdue
      rcases List.mem_append.mp hl with hl | hl
      · exact (holdsText_step hs hx hl hheld).mono (within_follow _ _ _)
      · exact ih (step_leads hs hx).isRegular hl

theorem holdsText_refresh (hs : s.IsRegular) {l : Leaving} (hl : l ∈ s.refreshLeavings)
    (hheld : l.IsHeld) : s.refresh.HoldsText l := by
  rw [refreshLeavings] at hl
  rw [refresh_eq]
  split at hl
  · cases hl
  · rename_i hdone
    rw [if_neg hdone]
    exact holdsText_follow choosesEvent_dueInPass?
      (beginPass_leads hs (fun _ => False) hdone).isRegular hl hheld

/-- A file that a loop has left for a list stays as it is, if no list with the same file is reported
on in the loop. -/
theorem stat?_follow (hnext : ChoosesEvent next?) (hs : s.IsRegular)
    (hnodup : ((followReports next? fuel s).map fun r =>
      s.files.placeOf (s.engine.fetcher.cachePath r.status.source)).Nodup)
    {l : Leaving} (hl : l ∈ gather stepLeavings next? fuel s) (hheld : l.IsHeld) :
    (follow next? fuel s).files.stat? (s.engine.fetcher.cachePath l.status.source) = l.file := by
  -- on the fuel: the list is left by the first step, and then no more comes for its place, or later
  induction fuel generalizing s with
  | zero => cases hl
  | succ fuel ih =>
    rw [gather] at hl
    rw [followReports] at hnodup
    rw [follow]
    rcases hdue : next? s with _ | ⟨time, e⟩
    · rw [hdue] at hl
      cases hl
    · rw [hdue] at hl hnodup
      have hx := hnext s _ hdue
      have hstep := step_leads hs hx
      dsimp only at hnodup hstep ⊢
      rw [List.map_append, List.nodup_append] at hnodup
      obtain ⟨-, hrest, hdisjoint⟩ := hnodup
      rcases List.mem_append.mp hl with hl | hl
      · obtain ⟨text, modified, hfile, -⟩ := holdsText_step hs hx hl hheld
        obtain ⟨r, hr, hstatus⟩ := exists_report hl
        have hnow := stat?_step s hl
        rw [hfile] at hnow ⊢
        refine Files.stat?_of_grows (follow_leads hnext fuel hstep.isRegular).grows hnow ?_
        intro hchange
        rcases hstep.mayChange hchange with ⟨y, -, hy⟩ | ⟨y, hy, -, -, hplace⟩
        · rw [Files.placeOf_congr hstep.grows.home_eq] at hy
          exact Cache.placeOf_temporary_ne _ _ y.name l.status.source.name hy.symm
        · obtain ⟨r', hr', rfl⟩ := List.mem_map.mp hy
          rw [Files.placeOf_congr hstep.grows.home_eq, ← hstatus] at hplace
          exact hdisjoint _ (List.mem_map_of_mem hr) _ (List.mem_map_of_mem hr') hplace
      · rw [← hstep.fetcher_eq]
        refine ih hstep.isRegular ?_ hl
        rw [hstep.fetcher_eq]
        simp only [Files.placeOf_congr hstep.grows.home_eq]
        exact hrest

/-- A quiet refresh leaves the files as its pass has left them, if no two lists have the same. -/
theorem stat?_refresh (hs : s.IsRegular) (hquiet : s.IsQuiet)
    (hplaces : (s.engine.fetcher.sources.map fun x =>
      s.files.placeOf (s.engine.fetcher.cachePath x)).Nodup)
    {l : Leaving} (hl : l ∈ s.refreshLeavings) (hheld : l.IsHeld) :
    s.refresh.files.stat? (s.engine.fetcher.cachePath l.status.source) = l.file := by
  obtain ⟨p, hof, hpdone, -, hfinished, hrun⟩ := exists_refresh hs
  -- nobody else reports, and the pass reports on each list once
  have hreports : (s.refreshReports.map fun r =>
      s.files.placeOf (s.engine.fetcher.cachePath r.status.source)).Nodup := by
    have hall : s.refreshReports.filter (fun r => !r.scheduled) = s.refreshReports :=
      List.filter_eq_self.mpr fun r hr => by rw [(hrun hquiet).1 r hr]; rfl
    rw [hall] at hfinished
    have hperm := (hof.finished_perm hpdone).map fun x =>
      s.files.placeOf (s.engine.fetcher.cachePath x)
    rw [hfinished, List.map_map, List.map_map] at hperm
    exact hperm.nodup_iff.mpr hplaces
  rw [refreshLeavings] at hl
  rw [refreshReports] at hreports
  rw [refresh_eq]
  split at hl
  · cases hl
  · rename_i hdone
    rw [if_neg hdone] at hreports ⊢
    have hbegin := beginPass_leads hs (fun _ => False) hdone
    rw [← hbegin.fetcher_eq] at hreports ⊢
    refine stat?_follow choosesEvent_dueInPass? hbegin.isRegular ?_ hl hheld
    simp only [Files.placeOf_congr hbegin.grows.home_eq]
    exact hreports

/-! ## Once more -/

/-- Whether a state is still as a pass has left it, as far as passes are concerned: the same lists
and rules, and for each list the file that was left, at most a day old. -/
structure IsAsLeft (ls : List Leaving) (v u : System) : Prop where
  isRegular : u.IsRegular
  fetcher_eq : u.engine.fetcher = v.engine.fetcher
  rules_eq : u.engine.rules = v.engine.rules
  stat?_eq : ∀ l ∈ ls, u.files.stat? (u.engine.fetcher.cachePath l.status.source) = l.file
  isYoung : ∀ l ∈ ls, ∀ modified,
    u.files.modified? (u.engine.fetcher.cachePath l.status.source) = some modified →
      u.clock.date - modified ≤ Cache.staleAfter

theorem IsAsLeft.of_eq {ls : List Leaving} (h : IsAsLeft ls v u)
    (hrules : v.engine.rules = w.engine.rules) (hfetcher : v.engine.fetcher = w.engine.fetcher) :
    IsAsLeft ls w u :=
  ⟨h.isRegular, h.fetcher_eq.trans hfetcher, h.rules_eq.trans hrules, h.stat?_eq, h.isYoung⟩

/-- What is read for a list that was left held: a text that is young enough, and that the rules
hold. -/
theorem IsAsLeft.exists_text {ls : List Leaving} (h : IsAsLeft ls v u) {l : Leaving} (hl : l ∈ ls)
    (hholds : v.HoldsText l) : ∃ text,
      u.engine.fetcher.freshText? u.files u.clock.date l.status.source = some text ∧
      u.engine.rules.Holds (FilterList.ofText text) ∧
      u.freshStatus (fun _ => text) l.status.source = l.status.asCached := by
  obtain ⟨text, modified, hfile, hupdated, hcounts, hin⟩ := hholds
  have hstat := h.stat?_eq l hl
  rw [hfile] at hstat
  have hmodified := Pass.modified?_of_stat? hstat
  have hyoung := h.isYoung l hl modified hmodified
  refine ⟨text, ?_, ?_, ?_⟩
  · rw [Fetcher.freshText?, Cache.needsRefresh, hmodified]
    dsimp only
    rw [if_neg (by simpa using hyoung), Files.readText?, hstat]
    rfl
  · rw [h.rules_eq]
    exact hin
  · rw [freshStatus, Yield.status, hmodified, SourceStatus.asCached, hupdated, hcounts]
    rfl

/-- A refresh that comes after one that has left all lists held. -/
theorem IsAsLeft.refresh (ht : t.IsRegular) (hfetcher : v.engine.fetcher = t.engine.fetcher)
    (hnames : (t.engine.fetcher.sources.map (·.name)).Nodup)
    (hholds : ∀ l ∈ t.refreshLeavings, v.HoldsText l) (h : IsAsLeft t.refreshLeavings v u) :
    u.refresh.web = u.web ∧ u.refresh.files = u.files ∧
      u.refresh.engine.rules = u.engine.rules ∧
      u.refresh.engine.statuses = t.refresh.engine.statuses.map SourceStatus.asCached := by
  have hperm := refreshLeavings_perm ht
  have hsources := h.fetcher_eq.trans hfetcher
  -- the text of each list, by the list
  let text : Source → List Char := fun x =>
    (u.files.readText? (u.engine.fetcher.cachePath x)).getD []
  have hlist : ∀ l ∈ t.refreshLeavings,
      u.engine.fetcher.freshText? u.files u.clock.date l.status.source =
          some (text l.status.source) ∧
        u.engine.rules.Holds (FilterList.ofText (text l.status.source)) ∧
        u.freshStatus text l.status.source = l.status.asCached := by
    intro l hl
    obtain ⟨read, hfresh, hin, hstatus⟩ := h.exists_text hl (hholds l hl)
    have htext : text l.status.source = read := by
      rw [Fetcher.freshText?, Option.ite_none_left_eq_some] at hfresh
      exact congrArg (Option.getD · []) hfresh.2
    rw [htext]
    refine ⟨hfresh, hin, ?_⟩
    rw [freshStatus, htext]
    exact hstatus
  have hmem : ∀ x ∈ u.engine.fetcher.sources, ∃ l ∈ t.refreshLeavings, l.status.source = x := by
    intro x hx
    rw [hsources] at hx
    exact List.mem_map.mp (hperm.symm.subset hx)
  have hfresh : ∀ x ∈ u.engine.fetcher.sources,
      u.engine.fetcher.freshText? u.files u.clock.date x = some (text x) := by
    intro x hx
    obtain ⟨l, hl, rfl⟩ := hmem x hx
    exact (hlist l hl).1
  obtain ⟨hweb, hfiles, -, hrules, hstatuses⟩ := refresh_of_fresh hfresh
  refine ⟨hweb, hfiles, ?_, ?_⟩
  · have hchanges : (u.engine.fetcher.sources.map text).map RuleChange.ofText =
        (u.engine.fetcher.sources.map fun x => FilterList.ofText (text x)).map .apply := by
      rw [List.map_map, List.map_map]
      rfl
    rw [hrules, hchanges]
    refine RuleSet.changeAll_of_holds fun k hk => ?_
    obtain ⟨x, hx, rfl⟩ := List.mem_map.mp hk
    obtain ⟨l, hl, rfl⟩ := hmem x hx
    exact (hlist l hl).2.1
  · -- the lists come in their own order now, and in both cases are sorted by their names
    have hsame : t.refreshLeavings.map (fun l => l.status.asCached) =
        (t.refreshLeavings.map (·.status.source)).map (u.freshStatus text) := by
      rw [List.map_map]
      exact List.map_congr_left fun l hl => (hlist l hl).2.2.symm
    have hsort : (sortBy (·.source.name) (t.refreshLeavings.map (·.status))).map
        SourceStatus.asCached = sortBy (·.source.name)
          ((t.refreshLeavings.map (·.status)).map SourceStatus.asCached) :=
      map_sortBy fun _ _ => rfl
    rw [hstatuses, refresh_statuses ht, hsort, List.map_map]
    refine sortBy_congr ?_ ?_
    · rw [hsources]
      refine (hperm.symm.map _).trans ?_
      rw [← hsame]
      exact List.Perm.refl _
    · rw [List.map_map, hsources]
      exact hnames

/-- To bring in the first rules again, with overrides that the rules hold, changes nothing that
passes look at. -/
theorem IsAsLeft.load {ls : List Leaving} (h : IsAsLeft ls v u)
    (hholds : ∀ l ∈ ls, v.HoldsText l) (hfirst : ∀ k ∈ u.firstLists, v.engine.rules.Holds k) :
    IsAsLeft ls v u.load := by
  obtain ⟨hfetcher, -, hclock, -, -, -, -, -⟩ := load_frame u
  have hload := load_leads h.isRegular
  have hstat : ∀ l ∈ ls, u.load.files.stat? (u.load.engine.fetcher.cachePath l.status.source) =
      l.file := by
    intro l hl
    obtain ⟨text, modified, hfile, -⟩ := hholds l hl
    have hbefore := h.stat?_eq l hl
    rw [hfetcher, hfile]
    rw [hfile] at hbefore
    -- the file is there, so that it is not the one that is made
    refine Files.stat?_of_grows hload.grows hbefore ?_
    rintro ⟨-, hnone⟩
    rw [Files.fileAt?_of_stat? hbefore] at hnone
    cases hnone
  refine ⟨hload.isRegular, hfetcher.trans h.fetcher_eq, ?_, hstat, ?_⟩
  · have hchanges : u.loadChanges = u.firstLists.map .apply := rfl
    rw [load_rules, hchanges, h.rules_eq]
    exact RuleSet.changeAll_of_holds hfirst
  · intro l hl modified hmodified
    rw [hclock]
    refine h.isYoung l hl modified ?_
    rw [Files.modified?, h.stat?_eq l hl, ← hstat l hl]
    exact hmodified

/-- Whether another operation is a pass like the first, or only its refresh: after hydration it may
be another hydration, that finds the same overrides. -/
def IsAgain (s : System) (op : Operation) (u : System) (next : Operation) : Prop :=
  next = .refresh ∨ (op = .hydrate ∧ next = .hydrate ∧ u.overrideText? = s.overrideText?)

/-- The states after a pass and any number of further passes, each of which began in a state that
was as the one before had left it. -/
inductive Repeats (s : System) (op : Operation) : System → Prop
  | first : Repeats s op (s.perform op)
  | again {v u : System} {next : Operation} (before : Repeats s op v)
      (left : IsAsLeft (s.leavings op) v u) (again : s.IsAgain op u next) :
      Repeats s op (u.perform next)

/-- The pass of a refresh or a hydration begins in a state that holds the first rules in the case of
the latter. -/
theorem exists_beginning (hs : s.IsRegular) {op : Operation}
    (hop : op = .refresh ∨ op = .hydrate) : ∃ t : System, t.IsRegular ∧
      t.engine.fetcher = s.engine.fetcher ∧ s.perform op = t.refresh ∧
      s.leavings op = t.refreshLeavings ∧ (s.IsQuiet → t.IsQuiet) ∧
      t.files.home = s.files.home ∧
      (op = .hydrate → ∀ k ∈ s.firstLists, t.engine.rules.Holds k) := by
  rcases hop with rfl | rfl
  · exact ⟨s, hs, rfl, rfl, rfl, id, rfl, fun hop => by cases hop⟩
  · have hload := load_leads hs
    refine ⟨s.load, hload.isRegular, hload.fetcher_eq, rfl, rfl, isQuiet_load,
      hload.grows.home_eq, fun _ k hk => ?_⟩
    have hchanges : s.loadChanges = s.firstLists.map .apply := rfl
    rw [load_rules, hchanges]
    exact RuleSet.holds_changeAll hk

/-- One more pass, in a state that is as the first has left it. -/
theorem perform_of_isAsLeft (hs : s.IsRegular) {op next : Operation}
    (hop : op = .refresh ∨ op = .hydrate)
    (hnames : (s.engine.fetcher.sources.map (·.name)).Nodup)
    (hheld : ∀ l ∈ s.leavings op, l.IsHeld) (h : IsAsLeft (s.leavings op) (s.perform op) u)
    (hagain : s.IsAgain op u next) :
    (u.perform next).web = u.web ∧
      (u.perform next).engine.statuses =
        (s.perform op).engine.statuses.map SourceStatus.asCached ∧
      (u.perform next).engine.rules = (s.perform op).engine.rules ∧
      (u.perform next).engine.fetcher = s.engine.fetcher ∧
      ∀ l ∈ s.leavings op, (u.perform next).files.stat?
        (s.engine.fetcher.cachePath l.status.source) = l.file := by
  obtain ⟨t, ht, hfetcher, hperform, hleavings, -, -, hfirst⟩ := exists_beginning hs hop
  rw [hleavings] at hheld h ⊢
  rw [hperform] at h ⊢
  rw [← hfetcher] at hnames ⊢
  have hafter := (refresh_leads ht).fetcher_eq
  have hholds : ∀ l ∈ t.refreshLeavings, t.refresh.HoldsText l :=
    fun l hl => holdsText_refresh ht hl (hheld l hl)
  -- a refresh, whether by itself or after the first rules
  have hrefresh : ∀ w, IsAsLeft t.refreshLeavings t.refresh w → w.refresh.web = w.web ∧
      w.refresh.engine.statuses = t.refresh.engine.statuses.map SourceStatus.asCached ∧
      w.refresh.engine.rules = t.refresh.engine.rules ∧
      w.refresh.engine.fetcher = t.engine.fetcher ∧
      ∀ l ∈ t.refreshLeavings,
        w.refresh.files.stat? (t.engine.fetcher.cachePath l.status.source) = l.file := by
    intro w hw
    obtain ⟨hweb, hfiles, hrules, hstatuses⟩ := hw.refresh ht hafter hnames hholds
    refine ⟨hweb, hstatuses, hrules.trans hw.rules_eq,
      (refresh_leads hw.isRegular).fetcher_eq.trans (hw.fetcher_eq.trans hafter), ?_⟩
    intro l hl
    rw [hfiles, ← hafter, ← hw.fetcher_eq]
    exact hw.stat?_eq l hl
  rcases hagain with rfl | ⟨rfl, rfl, hoverrides⟩
  · exact hrefresh u h
  · have hread : u.overridesRead = s.overridesRead := by
      rw [overridesRead_eq, overridesRead_eq, Engine.readOverrides_snd h.isRegular.isTree,
        Engine.readOverrides_snd hs.isTree]
      exact congrArg (fun text? => (Option.map overrideDomains text?).getD []) hoverrides
    have hlists : ∀ k ∈ u.firstLists, t.refresh.engine.rules.Holds k := by
      intro k hk
      rw [firstLists, hread] at hk
      exact (hfirst rfl k hk).mono (within_refresh t)
    obtain ⟨-, -, -, -, -, -, hweb, -⟩ := load_frame u
    have hload := hrefresh u.load (h.load hholds hlists)
    rw [hweb] at hload
    exact hload

theorem fetcher_perform (hs : s.IsRegular) {op : Operation} (hop : op = .refresh ∨ op = .hydrate) :
    (s.perform op).engine.fetcher = s.engine.fetcher := by
  obtain ⟨t, ht, hfetcher, hperform, -⟩ := exists_beginning hs hop
  rw [hperform, (refresh_leads ht).fetcher_eq, hfetcher]

/-- What is reported of the lists is what they are left with. -/
theorem perform_statuses (hs : s.IsRegular) {op : Operation}
    (hop : op = .refresh ∨ op = .hydrate) : (s.perform op).engine.statuses =
      sortBy (·.source.name) ((s.leavings op).map (·.status)) := by
  obtain ⟨t, ht, -, hperform, hleavings, -⟩ := exists_beginning hs hop
  rw [hperform, hleavings]
  exact refresh_statuses ht

theorem perform_statuses_perm (hs : s.IsRegular) {op : Operation}
    (hop : op = .refresh ∨ op = .hydrate) :
    ((s.perform op).engine.statuses.map (·.source)).Perm s.engine.fetcher.sources := by
  obtain ⟨t, ht, hfetcher, hperform, -⟩ := exists_beginning hs hop
  rw [hperform, refresh_statuses ht, ← hfetcher]
  refine ((sortBy_perm _ _).map _).trans ?_
  rw [List.map_map]
  exact refreshLeavings_perm ht

/-- In a quiet system the files are in the end as the pass has left them. -/
theorem stat?_perform (hs : s.IsRegular) {op : Operation} (hop : op = .refresh ∨ op = .hydrate)
    (hplaces : (s.engine.fetcher.sources.map fun x =>
      s.files.placeOf (s.engine.fetcher.cachePath x)).Nodup)
    (hquiet : s.IsQuiet) {l : Leaving} (hl : l ∈ s.leavings op) (hheld : l.IsHeld) :
    (s.perform op).files.stat? (s.engine.fetcher.cachePath l.status.source) = l.file := by
  obtain ⟨t, ht, hfetcher, hperform, hleavings, htquiet, hhome, -⟩ := exists_beginning hs hop
  rw [hleavings] at hl
  rw [hperform, ← hfetcher]
  refine stat?_refresh ht (htquiet hquiet) ?_ hl hheld
  rw [hfetcher]
  simp only [Files.placeOf_congr hhome]
  exact hplaces

/-- Whatever number of passes has been made, they went over the same lists, and the rules are those
that the first one has left. -/
theorem Repeats.isSame (hs : s.IsRegular) {op : Operation} (hop : op = .refresh ∨ op = .hydrate)
    (hnames : (s.engine.fetcher.sources.map (·.name)).Nodup)
    (hheld : ∀ l ∈ s.leavings op, l.IsHeld) (h : s.Repeats op v) :
    v.engine.rules = (s.perform op).engine.rules ∧ v.engine.fetcher = s.engine.fetcher := by
  induction h with
  | first => exact ⟨rfl, fetcher_perform hs hop⟩
  | again _ left again ih =>
    have hleft := left.of_eq ih.1 (ih.2.trans (fetcher_perform hs hop).symm)
    obtain ⟨-, -, hrules, hfetcher, -⟩ := perform_of_isAsLeft hs hop hnames hheld hleft again
    exact ⟨hrules, hfetcher⟩

/-- Passes that are made again. The first one, of a refresh or a hydration, has left every list
held: it was had from the cache, or downloaded and put there. Its report is that of the lists as
they are left, and in a quiet system their files are so still when it is over. Then every further
pass that begins while the files are as they were left, and at most a day old, makes no call,
reports each list as had from the cache with the same rules, leaves the files as they are, and the
rules exactly as the first one has left them. -/
theorem repeats_spec (hs : s.IsRegular) {op : Operation} (hop : op = .refresh ∨ op = .hydrate)
    (hplaces : (s.engine.fetcher.sources.map fun x =>
      s.files.placeOf (s.engine.fetcher.cachePath x)).Nodup)
    (hheld : ∀ l ∈ s.leavings op, l.IsHeld) :
    let f := s.engine.fetcher
    let t := s.perform op
    (t.engine.statuses = sortBy (·.source.name) ((s.leavings op).map (·.status)) ∧
      (t.engine.statuses.map (·.source)).Perm f.sources ∧
      (s.IsQuiet → ∀ l ∈ s.leavings op, t.files.stat? (f.cachePath l.status.source) = l.file)) ∧
    (∀ v, s.Repeats op v → v.engine.rules = t.engine.rules) ∧
    ∀ v u next, s.Repeats op v → IsAsLeft (s.leavings op) v u → s.IsAgain op u next →
      (u.perform next).web = u.web ∧
      (u.perform next).engine.statuses = t.engine.statuses.map SourceStatus.asCached ∧
      (u.perform next).engine.rules = t.engine.rules ∧
      ∀ l ∈ s.leavings op, (u.perform next).files.stat? (f.cachePath l.status.source) = l.file := by
  intro f t
  have hnames : (f.sources.map (·.name)).Nodup := by
    refine List.Nodup.of_map (fun name => s.files.placeOf (Cache.path f.folder name)) ?_
    rw [List.map_map]
    exact hplaces
  refine ⟨⟨perform_statuses hs hop, perform_statuses_perm hs hop, fun hquiet l hl =>
    stat?_perform hs hop hplaces hquiet hl (hheld l hl)⟩,
    fun v hv => (hv.isSame hs hop hnames hheld).1, ?_⟩
  intro v u next hv left again
  obtain ⟨hrules, hfetcher⟩ := hv.isSame hs hop hnames hheld
  have hleft := left.of_eq hrules (hfetcher.trans (fetcher_perform hs hop).symm)
  obtain ⟨hweb, hstatuses, hafter, -, hfiles⟩ :=
    perform_of_isAsLeft hs hop hnames hheld hleft again
  exact ⟨hweb, hstatuses, hafter, hfiles⟩

/-- An engine whose first list will be downloaded, while the file of the second is young enough. -/
def halfFresh : System :=
  fetching "c".toList 1 (keeping 0) [.ok "0.0.0.0 first.example.org\n*ads*".toList]

/-- The same engine a day later. -/
def aDayAfter (s : System) : System :=
  { s with clock := { s.clock with timer := s.clock.timer + 86400000 } }

theorem isRegular_aDayAfter (hs : s.IsRegular) : s.aDayAfter.IsRegular := by
  have hlater : s.Leads s.aDayAfter fun _ => False :=
    Leads.of_eq hs rfl rfl rfl rfl rfl (Nat.le_add_right _ _) rfl
  exact hlater.isRegular

/-- Just a day after a hydration with a download, another one makes no call and leaves the rules as
they are. -/
theorem repeats_spec_of_day :
    (halfFresh.perform .hydrate).aDayAfter.hydrate.web = (halfFresh.perform .hydrate).web ∧
      (halfFresh.perform .hydrate).aDayAfter.hydrate.engine.rules =
        (halfFresh.perform .hydrate).engine.rules := by
  have hs : halfFresh.IsRegular := isRegular_fetching _ _ _ _
  have hplaces : (halfFresh.engine.fetcher.sources.map fun x =>
      halfFresh.files.placeOf (halfFresh.engine.fetcher.cachePath x)).Nodup := by decide
  have hheld : ∀ l ∈ halfFresh.leavings .hydrate, l.IsHeld := by decide
  have hyoung : ∀ l ∈ halfFresh.leavings .hydrate, ((halfFresh.perform .hydrate).files.modified?
      ((halfFresh.perform .hydrate).engine.fetcher.cachePath l.status.source)).all fun modified =>
        (halfFresh.perform .hydrate).aDayAfter.clock.date - modified ≤ Cache.staleAfter := by
    decide
  have hoverrides : (halfFresh.perform .hydrate).aDayAfter.overrideText? =
      halfFresh.overrideText? := by decide
  have hregular : (halfFresh.perform .hydrate).IsRegular :=
    (refresh_leads (load_leads hs).isRegular).isRegular
  obtain ⟨⟨-, -, hfiles⟩, -, hagain⟩ := repeats_spec hs (Or.inr rfl) hplaces hheld
  have hquiet := hfiles (isQuiet_fetching _ _ _ _)
  rw [← fetcher_perform hs (Or.inr rfl)] at hquiet
  have hagain := hagain _ (halfFresh.perform .hydrate).aDayAfter .hydrate .first
  generalize halfFresh.perform .hydrate = t at hregular hquiet hyoung hoverrides hagain ⊢
  obtain ⟨hweb, -, hrules, -⟩ := hagain
    ⟨isRegular_aDayAfter hregular, rfl, rfl, hquiet, fun l hl modified hmodified => by
      have hmodified : t.files.modified? (t.engine.fetcher.cachePath l.status.source) =
        some modified := hmodified
      simpa [hmodified] using hyoung l hl⟩ (Or.inr ⟨rfl, rfl, hoverrides⟩)
  exact ⟨hweb, hrules⟩

end System

end AdFilter
